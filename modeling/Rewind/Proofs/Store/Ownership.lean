/-
This file says which cells a generation owns. None of that can be seen from any generation, so it is
said of the generations themselves: they own cells only inside of their heap, and a heap never
shrinks from one generation to the next. The second is what keeps the first when generations are
merged, for a merged generation owns the cells of both.
-/

import Mathlib
import Rewind.Proofs.Store.Guards

namespace Rewind

/-! ### The tail -/

/-- A generation owns cells only inside of its heap, which has some least size. -/
structure Generation.Spans (least : Nat) (generation : Generation) : Prop where
  owned : ∀ position cell, generation.cells[position]? = some cell →
    position < generation.counters.heapSize
  larger : least ≤ generation.counters.heapSize

theorem Generation.Spans.putCell {least position : Nat} {generation : Generation}
    (spans : generation.Spans least)
    (inside : position < generation.counters.heapSize) (cell : Cell) :
    (generation.putCell position cell).Spans least := by
  refine ⟨fun other found present => ?_, spans.larger⟩
  simp only [Generation.putCell, Overlay.getElem?_insert] at present
  split at present
  · rename_i same
    exact same ▸ inside
  · exact spans.owned other found present

namespace Chain

open Rewind.Action (Guards guards_pure guards_throw guards_get guards_bind guards_modify)

/-- The tail owns cells only inside of its heap. -/
def TailSpans (least : Nat) (chain : Chain) : Prop := chain.tail.Spans least

variable {least : Nat} {chain : Chain}

/-- A cell can be owned only inside of the heap. -/
theorem TailSpans.own (spans : chain.TailSpans least) (position : Nat) :
    (∃ fault, Chain.own position chain = .error fault chain) ∨
      ∃ cell after, Chain.own position chain = .ok cell after ∧ after.TailSpans least ∧
        position < after.counters.heapSize := by
  unfold Chain.own
  split
  · rename_i inside
    cases chain.tail.cells[position]? with
    | some cell => exact .inr ⟨cell, chain, rfl, spans, inside⟩
    | none =>
      cases Generation.findCell? position chain.older with
      | none => exact .inl ⟨_, rfl⟩
      | some found => exact .inr ⟨_, _, rfl, Generation.Spans.putCell spans inside _, inside⟩
  · exact .inl ⟨_, rfl⟩

theorem spans_read (distance position : Nat) :
    Guards (TailSpans least) (fun _ => True) (read distance position) := by
  intro chain spans
  unfold read
  split
  · rename_i inside
    cases chain.tail.cells[position]? with
    | some cell => exact .ok spans
    | none =>
      cases Generation.findCell? position chain.older with
      | none => exact .error trivial spans
      | some found =>
        simp only
        split
        · exact .ok spans
        · exact .ok (Generation.Spans.putCell spans inside _)
  · exact .error trivial spans

theorem spans_change (position : Nat) (edit : Cell → Except StoreError Cell) :
    Guards (TailSpans least) (fun _ => True) (change position edit) := by
  intro chain spans
  unfold change
  obtain ⟨fault, failed⟩ | ⟨cell, owned, owning, still, inside⟩ := spans.own position
  · rw [Action.bind_of_error failed]
    exact .error trivial spans
  · rw [Action.bind_of_ok owning]
    cases edit cell with
    | error error => exact .error trivial still
    | ok changed => exact .ok (Generation.Spans.putCell still inside changed)

theorem spans_overwrite (position : Nat) (payload : Payload) :
    Guards (TailSpans least) (fun _ => True) (overwrite position payload) := by
  refine fun chain spans => ?_
  unfold overwrite
  rw [Action.bind_of_ok (rfl : (get : ChainM Chain) chain = .ok chain chain)]
  split
  · rename_i inside
    cases chain.tail.cells[position]? with
    | none => exact .error trivial spans
    | some cell =>
      obtain ⟨own, ⟨old, count⟩ | next⟩ := cell
      · exact .ok (Generation.Spans.putCell spans inside _)
      · exact .error trivial spans
  · exact .error trivial spans

theorem spans_alloc (payload : Payload) :
    Guards (TailSpans least) (fun _ => True) (alloc payload) := by
  intro chain spans
  unfold alloc
  rw [Action.bind_of_ok (rfl : (get : ChainM Chain) chain = .ok chain chain)]
  cases chain.counters.freeHead with
  | none =>
    refine .ok ⟨fun position cell present => ?_, Nat.le_succ_of_le spans.larger⟩
    change (chain.tail.putCell chain.counters.heapSize _).cells[position]? = some cell at present
    change position < chain.counters.heapSize + 1
    simp only [Generation.putCell, Overlay.getElem?_insert] at present
    split at present
    · omega
    · exact Nat.lt_succ_of_lt (spans.owned position cell present)
  | some position =>
    simp only
    obtain ⟨fault, failed⟩ | ⟨cell, owned, owning, still, inside⟩ := spans.own position
    · rw [Action.bind_of_error failed]
      exact .error trivial spans
    · rw [Action.bind_of_ok owning]
      cases cell.nextFree? with
      | none => exact .error trivial still
      | some next =>
        have put := Generation.Spans.putCell still inside (cell.occupy payload)
        exact .ok ⟨put.owned, put.larger⟩

theorem spans_free (sweeping : Bool) (position : Nat) :
    Guards (TailSpans least) (fun _ => True) (free sweeping position) := by
  refine guards_bind (guards_bind guards_get fun chain => ?_) fun seen => ?_
  · cases chain.cell position with
    | ok cell => exact guards_pure cell
    | error error => exact guards_throw trivial
  · split
    · split
      · exact guards_pure none
      · exact guards_throw trivial
    · split
      · exact guards_throw trivial
      · intro chain spans
        obtain ⟨fault, failed⟩ | ⟨cell, owned, owning, still, inside⟩ := spans.own position
        · rw [Action.bind_of_error failed]
          exact .error trivial spans
        · rw [Action.bind_of_ok owning]
          unfold vacate
          cases owned.counters.usedCells with
          | zero => exact .error trivial still
          | succ used =>
            have put := Generation.Spans.putCell still inside
              (cell.vacate owned.counters.freeHead).2
            exact .ok ⟨put.owned, put.larger⟩

/-! ### Bindings are none of the cells -/

theorem spans_ownLevel (index : Nat) :
    Guards (TailSpans least) (fun _ => True) (ownLevel index) := by
  intro chain spans
  unfold ownLevel
  cases chain.tail.levels[index]? with
  | some level => exact .ok spans
  | none =>
    cases Generation.findLevel? index chain.older with
    | none => exact .error trivial spans
    | some level => exact .ok ⟨spans.owned, spans.larger⟩

theorem spans_push (name : String) (value : Value) :
    Guards (TailSpans least) (fun _ => True) (push name value) := by
  refine guards_bind (guards_modify fun chain spans => ?_) fun _ =>
    guards_bind guards_get fun roomy =>
    guards_bind (spans_ownLevel _) fun level => ?_
  · split
    · exact ⟨spans.owned, spans.larger⟩
    · exact spans
  · cases level.insert name value with
    | error defect => exact guards_throw trivial
    | ok extended => exact guards_modify fun chain spans => ⟨spans.owned, spans.larger⟩

theorem TailSpans.dropEmptyLevels (spans : chain.TailSpans least) (count : Nat) :
    (Chain.dropEmptyLevels count chain).TailSpans least := by
  induction count generalizing chain with
  | zero => exact spans
  | succ top inductionHypothesis =>
    rw [Chain.dropEmptyLevels]
    split
    · exact inductionHypothesis ⟨spans.owned, spans.larger⟩
    · exact spans

theorem spans_ownBinding (name : String) :
    Guards (TailSpans least) (fun _ => True) (ownBinding name) := by
  refine guards_bind guards_get fun chain => ?_
  cases chain.levelOf? name with
  | none => exact guards_throw trivial
  | some index =>
    refine guards_bind (spans_ownLevel index) fun level => ?_
    cases level.get? name with
    | none => exact guards_throw trivial
    | some value => exact guards_pure _

theorem spans_remove (name : String) :
    Guards (TailSpans least) (fun _ => True) (remove name) := by
  refine guards_bind (spans_ownBinding name) fun (index, level, value) => guards_bind ?_ fun _ =>
    guards_pure value
  refine guards_modify fun chain spans => ?_
  have smaller : TailSpans least (mapCounters (fun counters =>
      { counters with stackSize := counters.stackSize - 1 })
      (chain.putLevel index (level.erase name))) := ⟨spans.owned, spans.larger⟩
  exact smaller.dropEmptyLevels _

theorem spans_replace (name : String) (value : Value) :
    Guards (TailSpans least) (fun _ => True) (replace name value) := by
  refine guards_bind (spans_ownBinding name) fun (index, level, old) => guards_bind ?_ fun _ =>
    guards_pure old
  exact guards_modify fun chain spans => ⟨spans.owned, spans.larger⟩

theorem guards_spans : GuardsAll (TailSpans least) (fun _ => True) where
  refused _ := trivial
  read := spans_read
  recount position edit _ := spans_change position edit
  overwrite position payload := by
    refine guards_bind (fun chain spans => ?_) fun _ => spans_overwrite position payload
    obtain ⟨fault, failed⟩ | ⟨cell, owned, owning, still, -⟩ := TailSpans.own spans position
    · rw [failed]
      exact .error trivial spans
    · rw [owning]
      exact .ok still
  alloc := spans_alloc
  free := spans_free
  push := spans_push
  remove := spans_remove
  replace := spans_replace
  retune _ _ spans := ⟨spans.owned, spans.larger⟩
  overflow := trivial

end Chain

/-! ### What all generations own -/

namespace Generation

/-- The size of the heap that the newest of some generations shows. -/
def sizeBelow (older : List Generation) : Nat :=
  older.head?.elim 0 fun generation => generation.counters.heapSize

/-- Every generation owns cells only inside of its heap, which is not smaller than the one below. -/
def Spanning : List Generation → Prop
  | [] => True
  | generation :: older => generation.Spans (sizeBelow older) ∧ Spanning older

theorem Spanning.of_suffix {generations lower : List Generation} (spanning : Spanning generations)
    (suffix : lower <:+ generations) : Spanning lower := by
  obtain ⟨newer, rfl⟩ := suffix
  induction newer with
  | nil => exact spanning
  | cons generation newer inductionHypothesis => exact inductionHypothesis spanning.2

/-- A generation that owns nothing yet. -/
theorem spans_successor (generation : Generation) (older : List Generation) (id : Nat)
    (resume : ResumePoint) :
    (generation.successor id resume).Spans (sizeBelow (generation :: older)) := by
  refine ⟨fun position cell present => ?_, Nat.le_refl _⟩
  have nothing : (generation.successor id resume).cells[position]? = none :=
    Std.TreeMap.getElem?_emptyc
  rw [nothing] at present
  cases present

theorem spans_oldest (id threshold : Nat) : (oldest id threshold).Spans 0 := by
  refine ⟨fun position cell present => ?_, Nat.zero_le _⟩
  have nothing : (oldest id threshold).cells[position]? = none := Std.TreeMap.getElem?_emptyc
  rw [nothing] at present
  cases present

/-- A merged generation shows the larger heap, which has room for the cells of both. -/
theorem Spans.mergeInto {newer target : Generation} {least : Nat}
    (upper : newer.Spans target.counters.heapSize) (lower : target.Spans least) (pools : Pools) :
    (newer.mergeInto target pools).1.Spans least := by
  refine ⟨fun position cell present => ?_, lower.larger.trans upper.larger⟩
  rw [cells_mergeInto] at present
  change position < newer.counters.heapSize
  cases own : newer.cells[position]? with
  | some _ => exact upper.owned position _ own
  | none =>
    rw [own, Option.none_or] at present
    exact Nat.lt_of_lt_of_le (lower.owned position cell present) upper.larger

/-- Newer generations may stand on others that show a heap of the same size. -/
theorem Spanning.append {newer first second : List Generation}
    (spanning : Spanning (newer ++ first))
    (same : sizeBelow second = sizeBelow first) (still : Spanning second) :
    Spanning (newer ++ second) := by
  induction newer with
  | nil => exact still
  | cons generation newer inductionHypothesis =>
    refine ⟨?_, inductionHypothesis spanning.2⟩
    have below : sizeBelow (newer ++ second) = sizeBelow (newer ++ first) := by
      cases newer with
      | nil => exact same
      | cons _ _ => rfl
    change generation.Spans (sizeBelow (newer ++ second))
    rw [below]
    exact spanning.1

/-- Merging goes from the oldest generation up, and the newer ones stand on what is merged so
far. -/
theorem spanning_foldl_mergeInto (newer : List Generation) (target : Generation)
    (older : List Generation) (pools : Pools)
    (spanning : Spanning (newer.reverse ++ target :: older)) :
    Spanning ((newer.foldl (fun merged generation => generation.mergeInto merged.1 merged.2)
      (target, pools)).1 :: older) := by
  induction newer generalizing target pools with
  | nil => exact spanning
  | cons generation newer inductionHypothesis =>
    rw [List.reverse_cons, List.append_assoc, List.singleton_append] at spanning
    obtain ⟨upper, lower, rest⟩ := spanning.of_suffix (List.suffix_append newer.reverse _)
    exact inductionHypothesis (generation.mergeInto target pools).1
      (generation.mergeInto target pools).2
      (spanning.append rfl ⟨upper.mergeInto lower pools, rest⟩)

end Generation

theorem Chain.spanning_mergeTo {chain : Chain} (spanning : Generation.Spanning chain.generations)
    (depth : Nat) : Generation.Spanning (chain.mergeTo depth).generations := by
  unfold mergeTo
  split
  · exact spanning
  · rename_i target older dropped
    refine Generation.spanning_foldl_mergeInto _ target older chain.pools ?_
    rwa [List.reverse_reverse, ← dropped, List.take_append_drop]

theorem Operation.spanning_perform (operation : Operation) {store : Store}
    (wiped : store.chain.pools.Wiped) (spanning : Generation.Spanning store.chain.generations) :
    Generation.Spanning (Action.reached (operation.perform store)).chain.generations := by
  obtain ⟨made, rfl⟩ | ⟨reshaped, -⟩ := operation.perform_cases store
  · have below := (made.keeps_perform wiped).chain.older
    have spans := (made.guards_perform Chain.guards_spans store spanning.1).kept
    refine ⟨?_, below ▸ spanning.2⟩
    change Generation.Spans
      (Generation.sizeBelow (Action.reached (made.perform store)).chain.older) _
    rw [below]
    exact spans
  · generalize (Action.reached (operation.perform store)).chain = after at reshaped
    cases reshaped with
    | same => exact spanning
    | extended resume => exact ⟨Generation.spans_successor _ _ _ resume, spanning⟩
    | shortened =>
      unfold Chain.discardTail
      split
      · exact spanning
      · rename_i lower
        exact (lower ▸ spanning.2 : Generation.Spanning (_ :: _))
    | discarded depth =>
      unfold Chain.discardTo
      split
      · exact spanning
      · rename_i dropped
        refine spanning.of_suffix ?_
        change _ :: _ <:+ store.chain.generations
        rw [← dropped]
        exact List.drop_suffix _ _
    | merged depth => exact Chain.spanning_mergeTo spanning depth
    | cleared => exact ⟨Generation.spans_oldest _ _, trivial⟩

theorem Store.spanning_after (settings : StoreSettings) (operations : List Operation) :
    Generation.Spanning ((empty settings).after operations).chain.generations := by
  have step : ∀ (store : Store) (operation : Operation),
      store.chain.pools.Wiped ∧ Generation.Spanning store.chain.generations → True →
        (Action.reached (operation.perform store)).chain.pools.Wiped ∧
          Generation.Spanning (Action.reached (operation.perform store)).chain.generations :=
    fun store operation kept _ =>
      ⟨operation.wiped_perform kept.1, operation.spanning_perform kept.1 kept.2⟩
  exact ((Along.of_forall (fun _ _ => trivial) _ operations).after step
    ⟨wiped_empty settings, Generation.spans_oldest _ _, trivial⟩).2

end Rewind
