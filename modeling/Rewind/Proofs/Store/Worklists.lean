/-
This file proves that the two loops over worklists come to an end on every graph, and how soon. One
takes references away and frees the cells that none is counted at any more; the other marks what can
be reached. Both put references on the list that they work off, and the graph may go in circles and
may have been counted wrongly, so neither the list nor the counts need become less.

What bounds them is that a turn puts references on the list only if it opens a cell, and no cell is
opened twice: opening takes it out of a stock that nothing is ever put back into. The stock of the
first loop is the cells in use, that of the second the cells in use that are not marked yet. So at
most those references are ever taken off that wait at first or that a cell in use holds.
-/

import Mathlib
import Rewind.Proofs.Store.Collection
import Rewind.Proofs.Store.FreeList

namespace Rewind

/-! ### Loops over worklists -/

namespace Worklist

/-- One turn of a loop over a worklist: the position that it takes off, and the payload of the cell
there if the turn opens it. -/
structure Turn where
  position : Nat
  opened : Option Payload

/-- A run of a loop over a worklist. Each turn takes the first position off the list and acts on it;
if that opens the cell there, the references of its payload are put on the list, the last of them
first. The run ends when nothing waits any more, or with a turn that fails. -/
inductive Run {ε σ : Type} (act : Nat → EStateM ε σ (Option Payload)) :
    List Nat → σ → List Turn → EStateM.Result ε σ Unit → Prop
  | done (state : σ) : Run act [] state [] (.ok () state)
  | failed {position : Nat} {rest : List Nat} {state reached : σ} {fault : ε}
    (failed : act position state = .error fault reached) :
    Run act (position :: rest) state [⟨position, none⟩] (.error fault reached)
  | turned {position : Nat} {rest : List Nat} {state reached : σ} {opened : Option Payload}
    {turns : List Turn} {result : EStateM.Result ε σ Unit}
    (acted : act position state = .ok opened reached)
    (run : Run act ((opened.elim [] Payload.references).reverse ++ rest) reached turns result) :
    Run act (position :: rest) state (⟨position, opened⟩ :: turns) result

/-- The cells that have been opened, in order. -/
def opened (turns : List Turn) : List (Nat × Payload) :=
  turns.filterMap fun turn => turn.opened.map fun payload => (turn.position, payload)

theorem opened_none (position : Nat) (turns : List Turn) :
    opened (⟨position, none⟩ :: turns) = opened turns := rfl

theorem opened_some (position : Nat) (payload : Payload) (turns : List Turn) :
    opened (⟨position, some payload⟩ :: turns) = (position, payload) :: opened turns := rfl

theorem opened_cons (turn : Turn) (turns : List Turn) :
    opened (turn :: turns) = opened [turn] ++ opened turns := by
  unfold opened
  rw [← List.filterMap_append, List.singleton_append]

/-- There are no more turns than references that wait at first or that some entries hold. For the
turns open only these entries, and none of them twice. -/
structure Bounded (waiting : Nat) (entries : Multiset Entry) (turns : List Turn) : Prop where
  length : turns.length ≤ waiting + (Entry.held entries).card
  once : ((opened turns).map Prod.fst).Nodup
  former : (opened turns : Multiset (Nat × Payload)) ≤ entries.map Entry.content

variable {ε σ : Type} {act : Nat → EStateM ε σ (Option Payload)} {pending : List Nat} {state : σ}
  {turns : List Turn} {result : EStateM.Result ε σ Unit}

/-- There is only one run from a list and a state. -/
theorem Run.unique {others : List Turn} {other : EStateM.Result ε σ Unit}
    (run : Run act pending state turns result) (also : Run act pending state others other) :
    others = turns ∧ other = result := by
  induction run generalizing others with
  | done =>
    cases also with
    | done => exact ⟨rfl, rfl⟩
  | failed failed =>
    cases also with
    | failed fails =>
      rw [failed] at fails
      cases fails
      exact ⟨rfl, rfl⟩
    | turned acted => exact absurd (failed.symm.trans acted) nofun
  | turned acted _ inductionHypothesis =>
    cases also with
    | failed fails => exact absurd (acted.symm.trans fails) nofun
    | turned acts rest =>
      rw [acted] at acts
      cases acts
      obtain ⟨rfl, rfl⟩ := inductionHypothesis rest
      exact ⟨rfl, rfl⟩

/-- Besides what waits at first, only references of cells that are opened are ever taken off. -/
theorem Run.length_le (run : Run act pending state turns result) :
    turns.length ≤ pending.length + ((opened turns : Multiset (Nat × Payload)).bind fun cell =>
      (cell.2.references : Multiset Nat)).card := by
  induction run with
  | done => exact Nat.zero_le _
  | failed =>
    rw [List.length_singleton, List.length_cons]
    omega
  | @turned position rest _ _ found turns _ _ _ inductionHypothesis =>
    -- What the turn puts on the list is what it adds to the references of opened cells.
    rw [List.length_append, List.length_reverse] at inductionHypothesis
    rw [List.length_cons, List.length_cons]
    cases found with
    | none =>
      rw [opened_none]
      simp only [Option.elim_none, List.length_nil] at inductionHypothesis
      omega
    | some payload =>
      rw [opened_some, ← Multiset.cons_coe, Multiset.cons_bind, Multiset.card_add,
        Multiset.coe_card]
      change _ ≤ _ + (payload.references.length + _)
      change turns.length ≤ payload.references.length + _ + _ at inductionHypothesis
      omega

/-- What a run opens comes out of a stock that every turn takes the cell from that it opens. -/
theorem Run.opened_le (invariant : σ → Prop) (stock : σ → Multiset (Nat × Payload))
    (spends : ∀ position state found reached, invariant state →
      act position state = .ok found reached → invariant reached ∧
        (opened [⟨position, found⟩] : Multiset (Nat × Payload)) + stock reached ≤ stock state)
    (run : Run act pending state turns result) (kept : invariant state) :
    (opened turns : Multiset (Nat × Payload)) ≤ stock state := by
  induction run with
  | done => exact Multiset.zero_le _
  | failed => exact Multiset.zero_le _
  | @turned position rest state reached found turns _ acted _ inductionHypothesis =>
    obtain ⟨still, spent⟩ := spends position state found reached kept acted
    rw [opened_cons, ← Multiset.coe_add]
    exact le_trans (add_le_add_right (inductionHypothesis still) _) spent

/-- A run that opens nothing but what some entries store, each at most once. -/
theorem Run.bounded {entries : Multiset Entry} (run : Run act pending state turns result)
    (distinct : (entries.map Entry.position).Nodup)
    (former : (opened turns : Multiset (Nat × Payload)) ≤ entries.map Entry.content) :
    Bounded pending.length entries turns where
  length := by
    obtain ⟨others, split⟩ := Multiset.le_iff_exists_add.mp former
    have fewer := run.length_le
    rw [Entry.held_eq_contents, split, Multiset.add_bind, Multiset.card_add]
    omega
  once := by
    have fewer := Multiset.map_le_map (f := Prod.fst) former
    rw [Multiset.map_map] at fewer
    exact Multiset.coe_nodup.mp (Multiset.nodup_of_le fewer distinct)
  former := former

/-- A bounded run is the only one. -/
theorem Run.existsUnique {waiting : Nat} {entries : Multiset Entry}
    (run : Run act pending state turns result) (bounded : Bounded waiting entries turns) :
    ∃! turns, Run act pending state turns result ∧ Bounded waiting entries turns :=
  ⟨turns, ⟨run, bounded⟩, fun _ other => (run.unique other.1).1⟩

end Worklist

/-! ### Taking references away -/

namespace Chain

open Worklist (Run Bounded opened)

variable {entries : Multiset Entry} {bindings : Bindings} {chain : Chain}

theorem run_releaseAll (sweeping : Bool) (pending : List Nat) (chain : Chain) :
    ∃ turns, Run (Chain.releaseOne sweeping) pending chain turns
      (releaseAll sweeping pending chain) := by
  fun_induction releaseAll sweeping pending chain with
  | case1 chain => exact ⟨[], .done chain⟩
  | case2 chain position rest fault reached failed => exact ⟨_, .failed failed⟩
  | case3 chain position rest freed reached released inductionHypothesis =>
    obtain ⟨turns, run⟩ := inductionHypothesis
    exact ⟨_, .turned released run⟩

/-- A turn that frees a cell takes it from the cells in use. Any other leaves all payloads where
they are. -/
theorem Holds.releaseOne_spends {sweeping : Bool} {position : Nat} {freed : Option Payload}
    {reached : Chain} (holds : chain.Holds entries bindings)
    (released : Chain.releaseOne sweeping position chain = .ok freed reached) :
    ∃ left, reached.Holds left bindings ∧
      (opened [⟨position, freed⟩] : Multiset (Nat × Payload)) + left.map Entry.content =
        entries.map Entry.content := by
  have ends := holds.releaseOne sweeping position
  rw [released] at ends
  cases ends with
  | lowered _ split _ held =>
    refine ⟨_, held, ?_⟩
    rw [split, Multiset.map_cons, Multiset.map_cons]
    exact zero_add _
  | freed here split _ held =>
    refine ⟨_, held, ?_⟩
    rw [split, Multiset.map_cons, ← here]
    exact Multiset.singleton_add _ _
  | skipped => exact ⟨entries, holds, zero_add _⟩

/-- However the cells refer to each other and whatever they count, none is freed twice. -/
theorem Holds.release_bounded (holds : chain.Holds entries bindings) (sweeping : Bool)
    (pending : List Nat) :
    ∃! turns, Run (Chain.releaseOne sweeping) pending.reverse chain turns
        (release sweeping pending chain) ∧
      Bounded pending.length entries turns := by
  obtain ⟨turns, run⟩ := run_releaseAll sweeping pending.reverse chain
  -- Counts change with every turn, so the stock is what the cells in use store, not the entries.
  have former := run.opened_le (fun chain => ∃ entries, chain.Holds entries bindings)
    (fun chain => chain.snapshot.entries.map Entry.content)
    (fun position chain freed reached => by
      rintro ⟨entries, holds⟩ released
      obtain ⟨left, held, spent⟩ := holds.releaseOne_spends released
      refine ⟨⟨left, held⟩, le_of_eq ?_⟩
      rw [holds.heap.entries_eq, held.heap.entries_eq, spent])
    ⟨entries, holds⟩
  rw [holds.heap.entries_eq] at former
  have bounded := run.bounded holds.heap.distinct former
  rw [List.length_reverse] at bounded
  exact run.existsUnique bounded

/-! ### Marking -/

/-- One turn of marking: marks a cell in use that is not marked yet, and returns its payload. -/
def markOne (chain : Chain) (position : Nat) : EStateM Empty (Array Bool) (Option Payload) :=
  fun marks =>
    if marks[position]? = some false then
      match chain.cell position >>= Cell.payload with
      | .ok payload => .ok (some payload) (marks.setIfInBounds position true)
      | .error _ => .ok none marks
    else .ok none marks

theorem run_markFrom (chain : Chain) (pending : List Nat) (marks : Array Bool) :
    ∃ turns, Run chain.markOne pending marks turns (.ok () (chain.markFrom pending marks)) := by
  fun_induction markFrom chain pending marks with
  | case1 marks => exact ⟨[], .done marks⟩
  | case2 marks position rest unmarked payload found inductionHypothesis =>
    obtain ⟨turns, run⟩ := inductionHypothesis
    refine ⟨⟨position, some payload⟩ :: turns, .turned ?_ run⟩
    rw [markOne, if_pos unmarked, found]
  | case3 marks position rest unmarked error failed inductionHypothesis =>
    obtain ⟨turns, run⟩ := inductionHypothesis
    refine ⟨⟨position, none⟩ :: turns, .turned ?_ run⟩
    rw [markOne, if_pos unmarked, failed]
  | case4 marks position rest known inductionHypothesis =>
    obtain ⟨turns, run⟩ := inductionHypothesis
    refine ⟨⟨position, none⟩ :: turns, .turned ?_ run⟩
    rw [markOne, if_neg known]

/-- The entries that are not marked. -/
def unmarked (entries : Multiset Entry) (marks : Array Bool) : Multiset Entry :=
  entries.filter fun entry => marks[entry.position]? = some false

/-- A turn that marks a cell takes it from those that are not marked. -/
theorem Holds.markOne_spends (holds : chain.Holds entries bindings) {position : Nat}
    {marks reached : Array Bool} {found : Option Payload}
    (acted : chain.markOne position marks = .ok found reached) :
    (opened [⟨position, found⟩] : Multiset (Nat × Payload)) +
        (unmarked entries reached).map Entry.content =
      (unmarked entries marks).map Entry.content := by
  unfold markOne at acted
  split at acted
  · rename_i isUnmarked
    obtain ⟨entry, member, rfl, payloads⟩ | ⟨-, error, failed⟩ := holds.payload_cases position
    · rw [payloads] at acted
      cases acted
      obtain ⟨rest, rfl⟩ := Multiset.exists_cons_of_mem member
      have inside := (Array.getElem?_eq_some_iff.mp isUnmarked).1
      have nowMarked : (marks.setIfInBounds entry.position true)[entry.position]? ≠ some false := by
        simp [inside]
      have others : unmarked rest (marks.setIfInBounds entry.position true) =
          unmarked rest marks := by
        refine Multiset.filter_congr fun other listed => ?_
        have apart := Entry.apart_of_nodup holds.heap.distinct listed
        rw [Array.getElem?_setIfInBounds_ne (Ne.symm apart)]
      unfold unmarked at others ⊢
      rw [Multiset.filter_cons_of_neg rest nowMarked, Multiset.filter_cons_of_pos rest isUnmarked,
        others, Multiset.map_cons]
      exact Multiset.singleton_add _ _
    · rw [failed] at acted
      cases acted
      exact zero_add _
  · cases acted
    exact zero_add _

/-- No cell is marked twice. -/
theorem Holds.marks_bounded (holds : chain.Holds entries bindings) :
    ∃! turns, Run chain.markOne chain.boundReferences.reverse
        (Array.replicate chain.counters.heapSize false) turns (.ok () chain.marks) ∧
      Bounded bindings.held.card entries turns := by
  obtain ⟨turns, run⟩ := chain.run_markFrom chain.boundReferences.reverse
    (Array.replicate chain.counters.heapSize false)
  have former := run.opened_le (fun _ => True)
    (fun marks => (unmarked entries marks).map Entry.content)
    (fun position marks found reached _ acted => ⟨trivial, (holds.markOne_spends acted).le⟩) trivial
  have bounded := run.bounded holds.heap.distinct
    (former.trans (Multiset.map_le_map (Multiset.filter_le _ _)))
  have waiting : chain.boundReferences.reverse.length = bindings.held.card := by
    rw [List.length_reverse, boundReferences, bindings_eq_snapshot, holds.stack.bindings_eq]
    rfl
  rw [waiting] at bounded
  exact run.existsUnique bounded

end Chain

/-! ### Stores on the way -/

namespace Store

/-- The stores that come about: by a run, in the middle of a sweep, and in the middle of an access
that is about to take references away, because it has freed a cell, has put another payload into
one, or has removed or replaced a binding. -/
inductive Arises : Store → Prop
  | run (settings : StoreSettings) (operations : List Operation) :
    Arises ((empty settings).after operations)
  | sweeping {store : Store} (arises : Arises store) (position : Nat) :
    Arises (Action.reached (onChain
      ((List.range position).forM (Chain.sweepCell store.chain.marks))
        { store with sweeping := true }))
  | freed {store : Store} (arises : Arises store) (position : Nat) :
    Arises (Action.reached (onChain (Chain.free store.sweeping position) store))
  | assigned {store : Store} (arises : Arises store) (position : Nat) (payload : Payload) :
    Arises (Action.reached ((do
      onChain (Chain.retainAll payload.references)
      onChain do
        let _ ← Chain.own position
        Chain.overwrite position payload : StoreM Payload) store))
  | removed {store : Store} (arises : Arises store) (name : String) :
    Arises (Action.reached (onChain (Chain.remove name) store))
  | replaced {store : Store} (arises : Arises store) (name : String) (value : Value) :
    Arises (Action.reached ((do
      retainValue value
      onChain (Chain.replace name value) : StoreM Value) store))

/-- References lead into the heap, and the heap is in order. -/
def Regular (store : Store) : Prop :=
  store.chain.Sound 0 ∧ store.chain.Shown Snapshot.Orderly

variable {store : Store}

theorem Regular.step {α : Type} {action : StoreM α} {allowed : StoreFault → Prop}
    (regular : store.Regular) (steady : Action.Within (Steady 0) action)
    (guards : Action.Guards (OfChain (Chain.Shown Snapshot.Orderly)) allowed action) :
    (Action.reached (action store)).Regular :=
  ⟨steady store regular.1, (guards store regular.2).kept⟩

theorem Arises.regular (arises : store.Arises) : store.Regular := by
  have guards := Chain.guards_orderly
  induction arises with
  | run settings operations =>
    obtain ⟨inOrder, sound⟩ := sound_after settings operations
    have orderly := (eachView_after guards Generation.orderly_oldest settings operations).2.tail
    exact ⟨sound.tail.chain inOrder.wiped, inOrder.wiped, orderly⟩
  | @sweeping store _ position inductionHypothesis =>
    have begun : ({ store with sweeping := true } : Store).Regular := inductionHypothesis
    exact begun.step
      (steady_onChain (Action.within_forM _ (Chain.steady_sweepCell store.chain.marks)))
      (guards_onChain (Action.guards_forM _ (guards.sweepCell store.chain.marks)))
  | freed _ position inductionHypothesis =>
    exact inductionHypothesis.step (steady_onChain (Chain.steady_free _ position))
      (guards_onChain (guards.free _ position))
  | assigned _ position payload inductionHypothesis =>
    exact inductionHypothesis.step
      (steady_afterRetainAll fun more counted =>
        steady_onChain (Chain.steady_overwrite position counted))
      (Action.guards_bind (guards_onChain (guards.retainAll _)) fun _ =>
        guards_onChain (guards.overwrite position payload))
  | removed _ name inductionHypothesis =>
    exact inductionHypothesis.step (steady_onChain (Chain.steady_remove name))
      (guards_onChain (guards.remove name))
  | replaced _ name value inductionHypothesis =>
    exact inductionHypothesis.step
      (steady_afterRetainValue fun more counted =>
        steady_onChain (Chain.steady_replace name counted))
      (Action.guards_bind (guards_retainValue guards.toGuardsCounts value) fun _ =>
        guards_onChain (guards.replace name value))

/-- How a store works its lists off when references are taken away from it or it is marked. -/
structure WorksOff (store : Store) (pending : List Nat) : Prop where
  /-- No cell is freed twice, and no reference taken off but those asked for and those that cells in
  use held. -/
  releasing : ∃! turns, Worklist.Run (Chain.releaseOne store.sweeping) pending.reverse store.chain
      turns (Chain.release store.sweeping pending store.chain) ∧
    Worklist.Bounded pending.length store.chain.snapshot.entries turns
  /-- Either all are taken away, or one of them is refused. -/
  answered : (∃ after, releaseAll pending store = .ok () after) ∨
    ∃ error after, releaseAll pending store = .error (.refused error) after
  /-- No cell is marked twice, and no reference taken off but those of bindings and those that cells
  in use hold. -/
  marking : ∃! turns, Worklist.Run store.chain.markOne store.chain.boundReferences.reverse
      (Array.replicate store.chain.counters.heapSize false) turns (.ok () store.chain.marks) ∧
    Worklist.Bounded store.chain.snapshot.bindings.held.card store.chain.snapshot.entries turns
  /-- Marked are the cells in use that can be reached. -/
  marked : ∀ position, store.chain.marks[position]? = some true ↔
    position ∈ store.chain.snapshot.entries.map Entry.position ∧
      Entry.Reached store.chain.snapshot.entries store.chain.snapshot.bindings position

end Store

/-- Whatever has been done to a store and however its cells refer to each other, taking references
away and marking come to an end, also while a sweep is under way and in the middle of an access. -/
theorem worklists_end {store : Store} (arises : store.Arises) (pending : List Nat) :
    store.WorksOff pending := by
  obtain ⟨⟨entries, bindings, holds, -⟩, shown⟩ := arises.regular
  have seen := holds.heap.entries_eq
  have bound := holds.stack.bindings_eq
  refine ⟨?_, ?_, ?_, fun position => ?_⟩
  · rw [seen]
    exact holds.release_bounded store.sweeping pending
  · have refusing : Chain.GuardsCounts (Chain.Shown Snapshot.Orderly)
        fun fault => ∃ error, fault = .refused error :=
      Chain.guards_counting fun error => ⟨error, rfl⟩
    have ends := Store.guards_releaseAll refusing pending store shown
    generalize Store.releaseAll pending store = result at ends ⊢
    cases ends with
    | ok => exact .inl ⟨_, rfl⟩
    | error expected =>
      obtain ⟨error, rfl⟩ := expected
      exact .inr ⟨error, _, rfl⟩
  · rw [seen, bound]
    exact holds.marks_bounded
  · rw [seen, bound]
    exact holds.marked_iff position

/-- Two lists that hold each other, one of them counted once too often, of which a sweep has just
freed one. -/
theorem worklists_end_in_cycle :
    let built := (Store.empty {}).after [
      .access (.alloc (.list [])), .access (.alloc (.list [.ref 0])),
      .access (.assign 0 (.list [.ref 1])), .access (.retain 0)]
    let begun := Action.reached (Store.onChain
      ((List.range 0).forM (Chain.sweepCell built.chain.marks)) { built with sweeping := true })
    let store := Action.reached (Store.onChain (Chain.free begun.sweeping 0) begun)
    store.Arises ∧ store.WorksOff [1] := by
  intro built begun store
  have arises : store.Arises := .freed (.sweeping (.run {} _) 0) 0
  exact ⟨arises, worklists_end arises [1]⟩

end Rewind
