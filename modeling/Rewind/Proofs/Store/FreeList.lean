/-
This file proves that the heap is in order in the view of every generation, whatever has been done
to the store: every position of the heap has its cell, the free ones are listed exactly once on the
free list, and the rest are as many as are counted as used. The cells of the list lie scattered over
the generations, but what is threaded is what is seen, so all this is said of snapshots.
-/

import Mathlib
import Rewind.Proofs.Store.Outcomes
import Rewind.Proofs.Store.Ownership

namespace Rewind

/-- A state that the invariants of the heap rule out. -/
def Defect.ofHeap : Defect → Bool
  | .unownedWrite _ | .usedCellOnFreeList _ | .usedCellsUnderflow => true
  | _ => false

/-- The heap is in order, with some positions on the free list. -/
structure Snapshot.Threaded (free : List Nat) (snapshot : Snapshot) : Prop where
  placed : ∀ position < snapshot.counters.heapSize, ∃ slot,
    snapshot.cell? position = some ⟨position, slot⟩
  inside : ∀ position cell, snapshot.cell? position = some cell →
    position < snapshot.counters.heapSize
  distinct : free.Nodup
  threads : Snapshot.Threads snapshot.cell? snapshot.counters.freeHead free
  listed : ∀ position own next, snapshot.cell? position = some ⟨own, .free next⟩ → position ∈ free
  counted : snapshot.counters.usedCells + free.length = snapshot.counters.heapSize

namespace Snapshot

open Rewind.Action (Guards guards_pure guards_bind guards_modify)

variable {free : List Nat} {snapshot after : Snapshot} {position own count : Nat}
  {payload old : Payload} {allowed : StoreFault → Prop}

theorem SameHeap.threaded (same : snapshot.SameHeap after) (threaded : snapshot.Threaded free) :
    after.Threaded free where
  placed := by rw [same.cell?, same.heapSize]; exact threaded.placed
  inside := by rw [same.cell?, same.heapSize]; exact threaded.inside
  distinct := threaded.distinct
  threads := by rw [same.cell?, same.freeHead]; exact threaded.threads
  listed := by rw [same.cell?]; exact threaded.listed
  counted := by rw [same.usedCells, same.heapSize]; exact threaded.counted

/-- The cell that is seen at a position is the cell of that position. -/
theorem Threaded.own_eq (threaded : snapshot.Threaded free) {slot : Slot}
    (seen : snapshot.cell? position = some ⟨own, slot⟩) : own = position := by
  obtain ⟨_, placed⟩ := threaded.placed position (threaded.inside _ _ seen)
  rw [seen] at placed
  cases placed
  rfl

theorem Threaded.notMem (threaded : snapshot.Threaded free)
    (seen : snapshot.cell? position = some ⟨own, .used payload count⟩) : position ∉ free := by
  intro member
  obtain ⟨next, isFree⟩ := free_of_threads threaded.threads member
  rw [seen] at isFree
  cases isFree

theorem Threaded.mem_iff (threaded : snapshot.Threaded free) :
    position ∈ free ↔ ∃ next, snapshot.cell? position = some ⟨position, .free next⟩ :=
  ⟨free_of_threads threaded.threads, fun ⟨_, seen⟩ => threaded.listed _ _ _ seen⟩

/-! ### Changing one cell -/

/-- A cell at its own position leaves every position with its cell. -/
theorem Threaded.placed_putCell (threaded : snapshot.Threaded free) (slot : Slot) (other : Nat)
    (inside : other < snapshot.counters.heapSize) :
    ∃ slot', (snapshot.putCell position ⟨position, slot⟩).cell? other = some ⟨other, slot'⟩ := by
  simp only [putCell, Function.update_apply]
  split
  · rename_i same
    exact ⟨slot, by rw [same]⟩
  · exact threaded.placed other inside

theorem Threaded.inside_putCell (threaded : snapshot.Threaded free)
    (inside : position < snapshot.counters.heapSize) (cell : Cell) (other : Nat) (found : Cell)
    (seen : (snapshot.putCell position cell).cell? other = some found) :
    other < snapshot.counters.heapSize := by
  simp only [putCell, Function.update_apply] at seen
  split at seen
  · rename_i same
    rw [same]
    exact inside
  · exact threaded.inside other found seen

/-- A cell in use may change its contents. -/
theorem Threaded.putUsed (threaded : snapshot.Threaded free) {before : Nat}
    (seen : snapshot.cell? position = some ⟨own, .used old before⟩)
    (payload : Payload) (count : Nat) :
    (snapshot.putCell position ⟨own, .used payload count⟩).Threaded free := by
  have inside := threaded.inside _ _ seen
  cases threaded.own_eq seen
  refine ⟨threaded.placed_putCell _, threaded.inside_putCell inside _, threaded.distinct,
    threaded.threads.update (threaded.notMem seen) _, fun other own next isFree => ?_,
    threaded.counted⟩
  simp only [putCell, Function.update_apply] at isFree
  split at isFree
  · cases isFree
  · exact threaded.listed other own next isFree

/-- Taking the first cell off the free list. -/
theorem Threaded.occupy (threaded : snapshot.Threaded (position :: free)) {next : Option Nat}
    (seen : snapshot.cell? position = some ⟨position, .free next⟩) (payload : Payload) :
    (mapCounters (fun counters =>
        { counters with freeHead := next, usedCells := counters.usedCells + 1 })
      (snapshot.putCell position ⟨position, .used payload 0⟩)).Threaded free := by
  have inside := threaded.inside _ _ seen
  obtain ⟨-, link, linked, below⟩ := threaded.threads
  rw [seen] at linked
  cases linked
  obtain ⟨apart, distinct⟩ := List.nodup_cons.mp threaded.distinct
  refine ⟨threaded.placed_putCell _, threaded.inside_putCell inside _, distinct,
    below.update apart _, fun other own link isFree => ?_, ?_⟩
  · simp only [mapCounters, putCell, Function.update_apply] at isFree
    split at isFree
    · cases isFree
    · rename_i different
      exact (List.mem_cons.mp (threaded.listed other own link isFree)).resolve_left different
  · have counted := threaded.counted
    rw [List.length_cons] at counted
    change snapshot.counters.usedCells + 1 + free.length = _
    rw [Nat.add_right_comm, Nat.add_assoc, counted]
    rfl

/-- A heap without a free cell grows by a cell in use. -/
theorem Threaded.grow (threaded : snapshot.Threaded []) (payload : Payload) :
    (snapshot.grow payload).Threaded [] := by
  have cell? (other : Nat) : (snapshot.grow payload).cell? other =
      if other = snapshot.counters.heapSize then
        some ⟨snapshot.counters.heapSize, .used payload 0⟩
      else snapshot.cell? other := Function.update_apply ..
  have size : (snapshot.grow payload).counters.heapSize = snapshot.counters.heapSize + 1 := rfl
  refine ⟨fun other inside => ?_, fun other cell seen => ?_, List.nodup_nil, threaded.threads,
    fun other own next isFree => ?_, ?_⟩
  · rw [cell?]
    split
    · rename_i last
      exact ⟨_, by rw [last]⟩
    · rename_i different
      exact threaded.placed other (by omega)
  · rw [cell?] at seen
    split at seen
    · omega
    · have smaller := threaded.inside other cell seen
      omega
  · rw [cell?] at isFree
    split at isFree
    · cases isFree
    · exact threaded.listed other own next isFree
  · have counted := threaded.counted
    rw [List.length_nil, Nat.add_zero] at counted ⊢
    exact congrArg (· + 1) counted

/-- Putting a cell on the free list. -/
theorem Threaded.vacate (threaded : snapshot.Threaded free) {used : Nat}
    (seen : snapshot.cell? position = some ⟨own, .used old count⟩)
    (counted : snapshot.counters.usedCells = used + 1) :
    (mapCounters (fun counters => { counters with freeHead := some position, usedCells := used })
      (snapshot.putCell position ⟨own, .free snapshot.counters.freeHead⟩)).Threaded
        (position :: free) := by
  have inside := threaded.inside _ _ seen
  have apart := threaded.notMem seen
  cases threaded.own_eq seen
  refine ⟨threaded.placed_putCell _, threaded.inside_putCell inside _,
    List.nodup_cons.mpr ⟨apart, threaded.distinct⟩,
    ⟨rfl, snapshot.counters.freeHead, Function.update_self .., threaded.threads.update apart _⟩,
    fun other own next isFree => ?_, ?_⟩
  · simp only [mapCounters, putCell, Function.update_apply] at isFree
    split at isFree
    · rename_i same
      exact same ▸ List.mem_cons_self
    · exact List.mem_cons_of_mem _ (threaded.listed other own next isFree)
  · have total := threaded.counted
    rw [counted, Nat.add_right_comm, Nat.add_assoc] at total
    exact total

/-- A cell in use is counted. -/
theorem Threaded.usedCells_pos (threaded : snapshot.Threaded free)
    (seen : snapshot.cell? position = some ⟨own, .used payload count⟩) :
    0 < snapshot.counters.usedCells := by
  have inside := threaded.inside _ _ seen
  have apart := threaded.notMem seen
  have fewer : (position :: free).length ≤ (List.range snapshot.counters.heapSize).length := by
    refine (List.subperm_of_subset (List.nodup_cons.mpr ⟨apart, threaded.distinct⟩)
      fun other member => List.mem_range.mpr ?_).length_le
    obtain same | listed := List.mem_cons.mp member
    · exact same ▸ inside
    · obtain ⟨next, isFree⟩ := free_of_threads threaded.threads listed
      exact threaded.inside _ _ isFree
  rw [List.length_cons, List.length_range] at fewer
  have counted := threaded.counted
  omega

/-- As many positions are in use as are counted. -/
theorem Threaded.count_used (threaded : snapshot.Threaded free) :
    snapshot.counters.usedCells = ((List.range snapshot.counters.heapSize).filter fun position =>
      (snapshot.cell? position).any fun cell => !cell.isFree).length := by
  let isFree (position : Nat) : Bool := (snapshot.cell? position).any Cell.isFree
  have split : ((List.range snapshot.counters.heapSize).filter fun position =>
      (snapshot.cell? position).any fun cell => !cell.isFree) =
      (List.range snapshot.counters.heapSize).filter fun position => !isFree position := by
    refine List.filter_congr fun position member => ?_
    obtain ⟨slot, placed⟩ := threaded.placed position (List.mem_range.mp member)
    simp only [isFree, placed, Option.any_some]
  have listed : ((List.range snapshot.counters.heapSize).filter isFree).length = free.length := by
    refine List.Perm.length_eq ((List.perm_ext_iff_of_nodup (List.nodup_range.filter _)
      threaded.distinct).mpr fun position => ?_)
    rw [List.mem_filter, List.mem_range, threaded.mem_iff]
    constructor
    · rintro ⟨inside, free⟩
      obtain ⟨slot, placed⟩ := threaded.placed position inside
      simp only [isFree, placed, Option.any_some] at free
      cases slot with
      | used payload count => cases free
      | free next => exact ⟨next, placed⟩
    · rintro ⟨next, seen⟩
      refine ⟨threaded.inside _ _ seen, ?_⟩
      simp only [isFree, seen, Option.any_some]
      rfl
  have total := List.length_eq_length_filter_add (l := List.range snapshot.counters.heapSize) isFree
  rw [List.length_range, listed, ← split] at total
  have counted := threaded.counted
  omega

/-! ### Operations on cells -/

/-- The heap is in order. -/
def Orderly (snapshot : Snapshot) : Prop := ∃ free, snapshot.Threaded free

/-- A payload is stored in the first cell of the free list, and at the end of the heap if there is
none. -/
theorem Threaded.alloc (threaded : snapshot.Threaded free) (payload : Payload) :
    ∃ position grown rest after, Snapshot.alloc payload snapshot = .ok (position, grown) after ∧
      after.Threaded rest ∧ after.cell? position = some ⟨position, .used payload 0⟩ ∧
      (free = position :: rest ∧ after.counters.heapSize = snapshot.counters.heapSize ∨
        free = [] ∧ rest = [] ∧ position = snapshot.counters.heapSize ∧
          after.counters.heapSize = snapshot.counters.heapSize + 1) := by
  unfold Snapshot.alloc
  cases free with
  | nil =>
    have none : snapshot.counters.freeHead = none := threaded.threads
    rw [none]
    exact ⟨_, _, [], _, rfl, threaded.grow payload, Function.update_self ..,
      .inr ⟨rfl, rfl, rfl, rfl⟩⟩
  | cons position rest =>
    obtain ⟨isHead, next, seen, -⟩ := threaded.threads
    rw [isHead]
    simp only [seen]
    exact ⟨_, _, rest, _, rfl, threaded.occupy seen payload,
      Function.update_self .., .inl ⟨rfl, rfl⟩⟩

theorem orderly_change (refused : ∀ error, allowed (.refused error)) (position : Nat)
    {edit : Cell → Except StoreError Cell} (recounts : Cell.Recounts edit) :
    Guards Orderly allowed (change position edit) := by
  rintro snapshot ⟨free, threaded⟩
  unfold change
  cases seen : snapshot.cell? position with
  | none => exact .error (refused _) ⟨free, threaded⟩
  | some cell =>
    simp only
    cases edited : edit cell with
    | error error => exact .error (refused _) ⟨free, threaded⟩
    | ok changed =>
      obtain ⟨own, payload, count, other, rfl, rfl⟩ := recounts cell changed edited
      exact .ok ⟨free, threaded.putUsed seen payload other⟩

theorem orderly_overwrite (position : Nat) (payload : Payload) :
    Guards Orderly (StoreFault.Spares Defect.ofHeap) (overwrite position payload) := by
  rintro snapshot ⟨free, threaded⟩
  unfold overwrite
  rcases seen : snapshot.cell? position with - | ⟨own, ⟨old, count⟩ | next⟩
  · exact .error (StoreFault.spares_refused _ _) ⟨free, threaded⟩
  · exact .ok ⟨free, threaded.putUsed seen payload count⟩
  · exact .error (StoreFault.spares_refused _ _) ⟨free, threaded⟩

theorem orderly_alloc (payload : Payload) :
    Guards Orderly (StoreFault.Spares Defect.ofHeap) (alloc payload) := by
  rintro snapshot ⟨free, threaded⟩
  obtain ⟨position, grown, rest, after, ran, still, -⟩ := threaded.alloc payload
  rw [ran]
  exact .ok ⟨rest, still⟩

theorem orderly_free (refused : ∀ error, allowed (.refused error)) (sweeping : Bool)
    (position : Nat) : Guards Orderly allowed (Snapshot.free sweeping position) := by
  rintro snapshot ⟨free, threaded⟩
  unfold Snapshot.free
  rcases seen : snapshot.cell? position with - | ⟨own, ⟨payload, count⟩ | next⟩
  · exact .error (refused _) ⟨free, threaded⟩
  · simp only
    split
    · exact .error (refused _) ⟨free, threaded⟩
    · obtain ⟨used, counted⟩ := Nat.exists_eq_succ_of_ne_zero
        (Nat.ne_of_gt (threaded.usedCells_pos seen))
      rw [counted]
      exact .ok ⟨position :: free, threaded.vacate seen counted⟩
  · simp only
    split
    · exact .ok ⟨free, threaded⟩
    · exact .error (refused _) ⟨free, threaded⟩

/-! ### Operations on bindings -/

theorem SameHeap.orderly (same : snapshot.SameHeap after) (orderly : snapshot.Orderly) :
    after.Orderly := by
  obtain ⟨free, threaded⟩ := orderly
  exact ⟨free, same.threaded threaded⟩

theorem orderly_push (name : String) (value : Value) :
    Guards Orderly (StoreFault.Spares Defect.ofHeap) (push name value) := by
  intro snapshot orderly
  have roomy := (sameHeap_makeRoom snapshot name).orderly orderly
  unfold push
  generalize snapshot.makeRoom name = room at roomy
  simp only
  cases room.level? (room.counters.levelCount - 1) with
  | none => exact .error (StoreFault.spares_defect rfl) roomy
  | some level =>
    simp only [Level.insert]
    cases level.contains name with
    | true => exact .error (StoreFault.spares_defect rfl) roomy
    | false =>
      obtain ⟨free, threaded⟩ := roomy
      exact .ok ⟨free, threaded.placed, threaded.inside, threaded.distinct, threaded.threads,
        threaded.listed, threaded.counted⟩

theorem orderly_binding (name : String) :
    Guards Orderly (StoreFault.Spares Defect.ofHeap) (binding name) := by
  intro snapshot orderly
  unfold binding
  cases snapshot.levelOfBelow? name snapshot.counters.levelCount with
  | none => exact .error (StoreFault.spares_refused _ _) orderly
  | some index =>
    simp only
    cases snapshot.level? index with
    | none => exact .error (StoreFault.spares_defect rfl) orderly
    | some level =>
      simp only
      cases level.get? name with
      | none => exact .error (StoreFault.spares_defect rfl) orderly
      | some value => exact .ok orderly

theorem orderly_remove (name : String) :
    Guards Orderly (StoreFault.Spares Defect.ofHeap) (remove name) := by
  refine guards_bind (orderly_binding name) fun (index, level, value) => guards_bind ?_ fun _ =>
    guards_pure value
  refine guards_modify fun snapshot orderly => ?_
  have smaller : snapshot.SameHeap (mapCounters (fun counters =>
      { counters with stackSize := counters.stackSize - 1 })
      (snapshot.putLevel index (level.erase name))) := ⟨rfl, rfl, rfl, rfl, rfl⟩
  exact (smaller.trans (sameHeap_dropEmptyLevels _ _)).orderly orderly

theorem orderly_replace (name : String) (value : Value) :
    Guards Orderly (StoreFault.Spares Defect.ofHeap) (replace name value) := by
  refine guards_bind (orderly_binding name) fun (index, level, old) => guards_bind ?_ fun _ =>
    guards_pure old
  refine guards_modify fun snapshot orderly => ?_
  have same : snapshot.SameHeap (snapshot.putLevel index (level.set name value)) :=
    ⟨rfl, rfl, rfl, rfl, rfl⟩
  exact same.orderly orderly

end Snapshot

/-- Counting keeps the heap in order, and is only ever refused. -/
theorem Chain.guards_counting {allowed : StoreFault → Prop}
    (refused : ∀ error, allowed (.refused error)) :
    Chain.GuardsCounts (Chain.Shown Snapshot.Orderly) allowed where
  refused := refused
  recount position _ recounts :=
    (follows_change position _).guards (Snapshot.orderly_change refused position recounts)
  free sweeping position :=
    (follows_free sweeping position).guards (Snapshot.orderly_free refused sweeping position)

/-- No operation brings the heap out of order, or finds it so. -/
theorem Chain.guards_orderly :
    Chain.GuardsAll (Chain.Shown Snapshot.Orderly) (StoreFault.Spares Defect.ofHeap) where
  toGuardsCounts := guards_counting (StoreFault.spares_refused _)
  read distance position :=
    (follows_read distance position).guards
      (Snapshot.guards_look (StoreFault.spares_refused _) position)
  overwrite position payload :=
    (follows_overwrite position payload).guards (Snapshot.orderly_overwrite position payload)
  alloc payload := (follows_alloc payload).guards (Snapshot.orderly_alloc payload)
  push name value := (follows_push name value).guards (Snapshot.orderly_push name value)
  remove name := (follows_remove name).guards (Snapshot.orderly_remove name)
  replace name value := (follows_replace name value).guards (Snapshot.orderly_replace name value)
  retune chain threshold kept := by
    obtain ⟨wiped, free, threaded⟩ := kept
    refine ⟨wiped, free, ?_⟩
    rw [snapshot_mapCounters rfl rfl]
    exact ⟨threaded.placed, threaded.inside, threaded.distinct, threaded.threads, threaded.listed,
      threaded.counted⟩
  overflow := StoreFault.spares_defect rfl

theorem Generation.orderly_oldest (id threshold : Nat) :
    ((Generation.oldest id threshold).over []).Orderly :=
  ⟨[], fun _ inside => absurd inside (Nat.not_lt_zero _), fun _ _ seen => (nomatch seen),
    List.nodup_nil, rfl, fun _ _ _ seen => (nomatch seen), rfl⟩

/-! ### Allocation -/

namespace Chain

variable {free : List Nat} {chain : Chain}

/-- A reference can be counted unless it is to a free cell or outside of the heap. That leaves the
free list and all counters as they are. -/
theorem retain_threaded (wiped : chain.pools.Wiped) (threaded : chain.snapshot.Threaded free)
    (position : Nat) :
    (∃ after, retain position chain = .ok () after ∧ after.pools.Wiped ∧
        after.snapshot.Threaded free ∧ after.counters = chain.counters) ∨
      (∃ error after, retain position chain = .error (.refused error) after) ∧
        (position ∈ free ∨ chain.counters.heapSize ≤ position) := by
  obtain ⟨own, payload, count, after, seen, ran, same, keeps⟩ | ⟨error, after, unread, failed, -⟩ :=
    retain_cases wiped position
  · exact .inl ⟨after, ran, keeps.wiped wiped, same ▸ threaded.putUsed seen payload (count + 1),
      congrArg Snapshot.counters same⟩
  · refine .inr ⟨⟨error, after, failed⟩, ?_⟩
    by_cases inside : position < chain.counters.heapSize
    · obtain ⟨slot, placed⟩ := threaded.placed position inside
      rw [cell_eq_snapshot, placed] at unread
      cases slot with
      | used payload count => cases unread
      | free next => exact .inl (threaded.listed _ _ _ placed)
    · exact .inr (Nat.le_of_not_lt inside)

theorem retainAll_threaded (wiped : chain.pools.Wiped) (threaded : chain.snapshot.Threaded free)
    (positions : List Nat) :
    (∃ after, retainAll positions chain = .ok () after ∧ after.pools.Wiped ∧
        after.snapshot.Threaded free ∧ after.counters = chain.counters) ∨
      (∃ error after, retainAll positions chain = .error (.refused error) after) ∧
        ∃ position ∈ positions, position ∈ free ∨ chain.counters.heapSize ≤ position := by
  induction positions generalizing chain with
  | nil => exact .inl ⟨chain, rfl, wiped, threaded, rfl⟩
  | cons position positions inductionHypothesis =>
    have unfolded : retainAll (position :: positions) chain =
        (retain position >>= fun _ => retainAll positions) chain := rfl
    rw [unfolded]
    obtain ⟨once, ran, still, stillThreaded, counters⟩ | ⟨⟨error, after, failed⟩, dangling⟩ :=
      retain_threaded wiped threaded position
    · rw [Action.bind_of_ok ran, ← counters]
      refine (inductionHypothesis still stillThreaded).imp id (And.imp id ?_)
      rintro ⟨other, member, dangling⟩
      exact ⟨other, List.mem_cons_of_mem _ member, dangling⟩
    · exact .inr ⟨⟨error, after, Action.bind_of_error failed⟩, position, List.mem_cons_self,
        dangling⟩

end Chain

namespace Store

variable {free : List Nat} {store : Store}

/-- A payload finds its place unless one of its references is to a free cell or outside of the
heap. -/
theorem alloc_threaded (wiped : store.chain.pools.Wiped)
    (threaded : store.chain.snapshot.Threaded free) (payload : Payload) :
    (∃ position after rest, alloc payload store = .ok position after ∧
        after.chain.snapshot.cell? position = some ⟨position, .used payload 0⟩ ∧
        (free = position :: rest ∧
            after.chain.counters.heapSize = store.chain.counters.heapSize ∨
          free = [] ∧ position = store.chain.counters.heapSize ∧
            after.chain.counters.heapSize = store.chain.counters.heapSize + 1)) ∨
      (∃ error after, alloc payload store = .error (.refused error) after) ∧
        ∃ position ∈ payload.references, position ∈ free ∨
          store.chain.counters.heapSize ≤ position := by
  unfold alloc
  obtain ⟨retained, ran, still, stillThreaded, counters⟩ | ⟨⟨error, after, failed⟩, dangling⟩ :=
    Chain.retainAll_threaded wiped threaded payload.references
  · rw [Action.bind_of_ok (onChain_of_ok ran), ← counters]
    obtain ⟨position, grown, rest, shown, flat, -, stored, place⟩ := stillThreaded.alloc payload
    obtain ⟨after, allocated, same, -⟩ := (Chain.follows_alloc payload).ok still flat
    subst same
    rw [Action.bind_of_ok (onChain_of_ok allocated)]
    refine .inl ⟨position, { store with
      chain := after, sweepRequested := if grown then true else store.sweepRequested }, rest, ?_,
      stored, place.imp id fun grew => ⟨grew.1, grew.2.2⟩⟩
    cases grown <;> rfl
  · exact .inr ⟨⟨error, _, Action.bind_of_error (onChain_of_error failed)⟩, dangling⟩

/-- A cell is free exactly if it is on the free list. -/
theorem isFreed_of_threaded (threaded : store.chain.snapshot.Threaded free) (position : Nat) :
    (store.isFreed position = .ok true ↔ position ∈ free) ∧
      (store.isFreed position = .ok false ↔
        position ∉ free ∧ position < store.chain.counters.heapSize) := by
  unfold isFreed
  rw [Chain.cell_eq_snapshot, threaded.mem_iff]
  rcases seen : store.chain.snapshot.cell? position with - | ⟨own, ⟨payload, count⟩ | next⟩
  · have outside : ¬ position < store.chain.counters.heapSize := by
      intro inside
      obtain ⟨slot, placed⟩ := threaded.placed position inside
      rw [seen] at placed
      cases placed
    simp [Except.map, outside]
  · simp [Except.map, Cell.isFree, show position < store.chain.counters.heapSize from
      threaded.inside _ _ seen]
  · cases threaded.own_eq seen
    simp [Except.map, Cell.isFree]

end Store

/-- The heap that is seen from a generation is in order. -/
structure Snapshot.HeapInOrder (view : Snapshot) : Prop where
  /-- Every position of the heap leads to the cell of that position. -/
  placed : ∀ position < view.counters.heapSize, ∃ slot, view.cell? position = some ⟨position, slot⟩
  /-- The free list comes to an end, and visits every free cell once and no other. -/
  threaded : ∃ free : List Nat, free.Nodup ∧
    Snapshot.Threads view.cell? view.counters.freeHead free ∧
    ∀ position, position ∈ free ↔ ∃ next, view.cell? position = some ⟨position, .free next⟩
  /-- As many positions are in use as are counted. -/
  counted : view.counters.usedCells = ((List.range view.counters.heapSize).filter fun position =>
    (view.cell? position).any fun cell => !cell.isFree).length

theorem Snapshot.Orderly.heapInOrder {view : Snapshot} (orderly : view.Orderly) :
    view.HeapInOrder := by
  obtain ⟨free, threaded⟩ := orderly
  exact ⟨threaded.placed, ⟨free, threaded.distinct, threaded.threads, fun _ => threaded.mem_iff⟩,
    threaded.count_used⟩

/-- Whatever has been done to a store, the heap of every generation is in order, and the generation
owns cells only inside of it. So a payload is stored in a free cell, and only if there is none, at
the end of the heap; nothing refers to it yet. It is refused only if it refers to a cell that is not
in use. And nothing that can be done to the store finds a cell in use on the free list, or frees
more cells than are in use. -/
theorem heap_in_order (settings : StoreSettings) (operations : List Operation) :
    let store := (Store.empty settings).after operations
    (∀ generation older, generation :: older <:+ store.chain.generations →
      (generation.over older).HeapInOrder ∧
        ∀ position, generation.owns position = true → position < generation.counters.heapSize) ∧
    (∀ payload,
      match Store.alloc payload store with
      | .ok position after =>
        after.peek position = .ok payload ∧ after.count position = .ok 0 ∧
          (store.isFreed position = .ok true ∧
              after.chain.counters.heapSize = store.chain.counters.heapSize ∨
            position = store.chain.counters.heapSize ∧ (∀ other, store.isFreed other ≠ .ok true) ∧
              after.chain.counters.heapSize = store.chain.counters.heapSize + 1)
      | .error fault _ => (∃ error, fault = .refused error) ∧
          ∃ position ∈ payload.references, store.isFreed position ≠ .ok false) ∧
    ∀ (operation : Operation) (defect : Defect) (after : Store),
      operation.perform store = .error (.defect defect) after → defect.ofHeap = false := by
  intro store
  obtain ⟨inOrder, each⟩ :=
    Store.eachView_after Chain.guards_orderly Generation.orderly_oldest settings
    operations
  have spanning := Store.spanning_after settings operations
  change store.InOrder at inOrder
  change store.chain.EachView Snapshot.Orderly at each
  change Generation.Spanning store.chain.generations at spanning
  refine ⟨fun generation older suffix => ⟨(each generation older suffix).heapInOrder,
    fun position owned => ?_⟩, fun payload => ?_, fun operation defect after failed => ?_⟩
  · unfold Generation.owns at owned
    rw [Std.TreeMap.contains_eq_isSome_getElem?] at owned
    obtain ⟨cell, present⟩ := Option.isSome_iff_exists.mp owned
    exact (spanning.of_suffix suffix).1.owned position cell present
  · obtain ⟨free, threaded⟩ := each.tail
    obtain ⟨position, after, rest, ran, stored, place⟩ | ⟨⟨error, after, failed⟩, position, member,
      dangling⟩ := Store.alloc_threaded inOrder.wiped threaded payload
    · rw [ran]
      refine ⟨?_, ?_, place.imp (fun reused => ⟨?_, reused.2⟩) fun grew => ⟨grew.2.1, ?_, grew.2.2⟩⟩
      · rw [Store.peek, Chain.cell_eq_snapshot, stored]
        rfl
      · rw [Store.count, Chain.cell_eq_snapshot, stored]
        rfl
      · rw [(Store.isFreed_of_threaded threaded position).1, reused.1]
        exact List.mem_cons_self
      · intro other
        rw [ne_eq, (Store.isFreed_of_threaded threaded other).1, grew.1]
        exact List.not_mem_nil
    · rw [failed]
      refine ⟨⟨error, rfl⟩, position, member, ?_⟩
      rw [ne_eq, (Store.isFreed_of_threaded threaded position).2]
      rintro ⟨unlisted, inside⟩
      exact dangling.elim unlisted (Nat.not_le.mpr inside)
  · exact Operation.fault_allowed Chain.guards_orderly (StoreFault.spares_defect rfl)
      ⟨inOrder.wiped, each.tail⟩ failed defect rfl

end Rewind
