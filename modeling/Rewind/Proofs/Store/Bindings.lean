/-
This file describes the stack by the list of its bindings. Names are bound in levels, each of which
binds a name at most once, and levels may end up empty; but all that can be seen of them is the
plain list of bindings. It grows at its end. A name means the last binding of it, and that is the
one which is removed or overwritten, wherever in the list it stands.
-/

import Mathlib
import Rewind.Proofs.Store.Locality

namespace Rewind

/-- The bindings of a stack, level by level. -/
structure Snapshot.Leveled (levels : List Bindings) (snapshot : Snapshot) : Prop where
  count : snapshot.counters.levelCount = levels.length
  level : ∀ index, snapshot.level? index = levels[index]?.map (Level.mk index)
  distinct : ∀ level ∈ levels, (level.map Prod.fst).Nodup

/-- A stack has some bindings, from the bottom up. -/
def Snapshot.Binds (bindings : Bindings) (snapshot : Snapshot) : Prop :=
  ∃ levels, snapshot.Leveled levels ∧ levels.flatten = bindings

/-- The heap is the same in two snapshots. -/
structure Snapshot.SameHeap (before after : Snapshot) : Prop where
  cell? : after.cell? = before.cell?
  heapSize : after.counters.heapSize = before.counters.heapSize
  usedCells : after.counters.usedCells = before.counters.usedCells
  freeHead : after.counters.freeHead = before.counters.freeHead
  sweepThreshold : after.counters.sweepThreshold = before.counters.sweepThreshold

/-- The stack is the same in two snapshots. -/
structure Snapshot.SameStack (before after : Snapshot) : Prop where
  level? : after.level? = before.level?
  levelCount : after.counters.levelCount = before.counters.levelCount

theorem Bindings.lookup_reverse {level : Bindings} (distinct : (level.map Prod.fst).Nodup)
    (name : String) : level.reverse.lookup name = level.lookup name := by
  induction level with
  | nil => rfl
  | cons binding level inductionHypothesis =>
    obtain ⟨bound, value⟩ := binding
    obtain ⟨absent, rest⟩ := List.nodup_cons.mp distinct
    rw [List.reverse_cons, List.lookup_append, inductionHypothesis rest, List.lookup_cons,
      List.lookup_cons, List.lookup_nil]
    by_cases same : name = bound
    · subst same
      have missing : level.lookup name = none := by
        rw [List.lookup_eq_none_iff]
        intro other member
        refine bne_iff_ne.mpr fun equal => absent ?_
        exact List.mem_map.mpr ⟨other, member, equal.symm⟩
      rw [missing, beq_self_eq_true]
      rfl
    · rw [beq_eq_false_iff_ne.mpr same, Option.or_none]

namespace Snapshot

variable {levels : List Bindings} {bindings : Bindings} {snapshot after : Snapshot}

theorem SameStack.binds (same : snapshot.SameStack after) (binds : snapshot.Binds bindings) :
    after.Binds bindings := by
  obtain ⟨levels, leveled, flat⟩ := binds
  exact ⟨levels, ⟨same.levelCount.trans leveled.count,
    fun index => same.level? ▸ leveled.level index, leveled.distinct⟩, flat⟩

theorem SameHeap.trans {third : Snapshot} (first : snapshot.SameHeap after)
    (second : after.SameHeap third) : snapshot.SameHeap third where
  cell? := second.cell?.trans first.cell?
  heapSize := second.heapSize.trans first.heapSize
  usedCells := second.usedCells.trans first.usedCells
  freeHead := second.freeHead.trans first.freeHead
  sweepThreshold := second.sweepThreshold.trans first.sweepThreshold

/-- A name means its last binding. -/
theorem Leveled.getBelow? (leveled : snapshot.Leveled levels) (name : String) (count : Nat) :
    snapshot.getBelow? name count = (levels.take count).flatten.reverse.lookup name := by
  induction count with
  | zero => rfl
  | succ index inductionHypothesis =>
    rw [Snapshot.getBelow?, leveled.level, inductionHypothesis, List.take_add_one]
    cases found : levels[index]? with
    | none => simp only [Option.map_none, Option.bind_none, Option.toList_none, List.append_nil]
    | some level =>
      have distinct := leveled.distinct level (List.mem_of_getElem? found)
      simp only [Option.map_some, Option.bind_some, Option.toList_some, List.flatten_append,
        List.flatten_singleton, List.reverse_append, List.lookup_append,
        Bindings.lookup_reverse distinct]
      have same : (Level.mk index level).get? name = level.lookup name := rfl
      rw [same]
      cases level.lookup name <;> rfl

theorem Binds.get? (binds : snapshot.Binds bindings) (name : String) :
    snapshot.getBelow? name snapshot.counters.levelCount = bindings.reverse.lookup name := by
  obtain ⟨levels, leveled, rfl⟩ := binds
  rw [leveled.getBelow?, leveled.count, List.take_length]

theorem Binds.bindings_eq (binds : snapshot.Binds bindings) : snapshot.bindings = bindings := by
  obtain ⟨levels, leveled, rfl⟩ := binds
  have listed : snapshot.bindings =
      (List.range levels.length).flatMap fun index => levels[index]?.getD [] := by
    unfold Snapshot.bindings
    rw [leveled.count]
    refine List.flatMap_congr fun index member => ?_
    rw [leveled.level, List.getElem?_eq_getElem (List.mem_range.mp member)]
    rfl
  rw [listed, List.flatMap_def]
  refine congrArg List.flatten (List.ext_getElem (by simp) fun index inside _ => ?_)
  rw [List.length_map, List.length_range] at inside
  simp [inside]

/-! ### Binding -/

theorem leveled_openLevel (leveled : snapshot.Leveled levels) :
    (snapshot.openLevel).counters.levelCount = (levels ++ [[]]).length ∧
      ∀ index, snapshot.openLevel.level? index = (levels ++ [[]])[index]?.map (Level.mk index) := by
  refine ⟨?_, fun index => ?_⟩
  · change snapshot.counters.levelCount + 1 = _
    rw [leveled.count, List.length_append, List.length_singleton]
  · change Function.update snapshot.level? snapshot.counters.levelCount
      (some ⟨snapshot.counters.levelCount, []⟩) index = _
    rw [Function.update_apply, leveled.count]
    by_cases top : index = levels.length
    · subst top
      rw [if_pos rfl, List.getElem?_concat_length]
      rfl
    · rw [if_neg top, leveled.level]
      by_cases inside : index < levels.length
      · rw [List.getElem?_append_left inside]
      · rw [List.getElem?_eq_none (by omega), List.getElem?_eq_none (by simp; omega)]

theorem sameHeap_makeRoom (snapshot : Snapshot) (name : String) :
    snapshot.SameHeap (snapshot.makeRoom name) := by
  unfold makeRoom
  split <;> exact ⟨rfl, rfl, rfl, rfl, rfl⟩

theorem stackSize_makeRoom (snapshot : Snapshot) (name : String) :
    (snapshot.makeRoom name).counters.stackSize = snapshot.counters.stackSize := by
  unfold makeRoom
  split <;> rfl

/-- Once there is room, a name goes to the end of the topmost level. -/
theorem leveled_makeRoom (leveled : snapshot.Leveled levels) (name : String) :
    ∃ lower top, (snapshot.makeRoom name).counters.levelCount = (lower ++ [top]).length ∧
      (∀ index, (snapshot.makeRoom name).level? index =
        (lower ++ [top])[index]?.map (Level.mk index)) ∧
      (∀ level ∈ lower, (level.map Prod.fst).Nodup) ∧
      (top.map Prod.fst).Nodup ∧ name ∉ top.map Prod.fst ∧
      (lower ++ [top]).flatten = levels.flatten := by
  unfold makeRoom
  split
  · obtain ⟨count, level⟩ := leveled_openLevel leveled
    exact ⟨levels, [], count, level, leveled.distinct, List.nodup_nil, List.not_mem_nil, by simp⟩
  · rename_i enough
    obtain rfl | ⟨lower, top, rfl⟩ := levels.eq_nil_or_concat'
    · unfold needsLevel at enough
      rw [leveled.count] at enough
      exact absurd rfl enough
    · refine ⟨lower, top, leveled.count, leveled.level,
        fun level member => leveled.distinct level (List.mem_append_left _ member),
        leveled.distinct top (by simp), fun present => enough ?_, rfl⟩
      unfold needsLevel
      rw [leveled.count, List.length_append, List.length_singleton]
      simp only [leveled.level]
      rw [List.getElem?_concat_length]
      change (top.lookup name).isSome = true
      rw [List.lookup_isSome_iff]
      obtain ⟨binding, member, rfl⟩ := List.mem_map.mp present
      exact ⟨binding, member, beq_self_eq_true _⟩

/-- Changing a level changes no other one. -/
theorem update_level {level? : Nat → Option Level} {levels : List Bindings}
    (level : ∀ index, level? index = levels[index]?.map (Level.mk index)) {changing : Nat}
    (inside : changing < levels.length) (changed : Bindings) (index : Nat) :
    Function.update level? changing (some (Level.mk changing changed)) index =
      (levels.set changing changed)[index]?.map (Level.mk index) := by
  rw [Function.update_apply, List.getElem?_set]
  by_cases here : index = changing
  · subst here
    rw [if_pos rfl, if_pos rfl, if_pos inside]
    rfl
  · rw [if_neg here, if_neg (Ne.symm here), level]

/-- Binding a name adds it to the topmost level, once there is room for it. -/
theorem Leveled.push (leveled : snapshot.Leveled levels) (name : String) (value : Value) :
    ∃ lower top after, Snapshot.push name value snapshot = .ok () after ∧
      after.Leveled (lower ++ [top ++ [(name, value)]]) ∧
      (lower ++ [top]).flatten = levels.flatten ∧ snapshot.SameHeap after ∧
      after.counters.stackSize = snapshot.counters.stackSize + 1 := by
  obtain ⟨lower, top, count, level, distinct, topDistinct, fresh, flat⟩ :=
    leveled_makeRoom leveled name
  have room := sameHeap_makeRoom snapshot name
  have size := stackSize_makeRoom snapshot name
  unfold Snapshot.push
  generalize snapshot.makeRoom name = roomy at count level room size
  have atTop : roomy.counters.levelCount - 1 = lower.length := by
    rw [count, List.length_append, List.length_singleton, Nat.add_sub_cancel]
  simp only [atTop, level, List.getElem?_concat_length, Option.map_some]
  have absent : (Level.mk lower.length top).contains name = false := by
    change (top.lookup name).isSome = false
    rw [Option.isSome_eq_false_iff, Option.isNone_iff_eq_none, List.lookup_eq_none_iff]
    intro binding member
    exact bne_iff_ne.mpr fun same => fresh (same ▸ List.mem_map_of_mem member)
  simp only [Level.insert, absent]
  refine ⟨lower, top, _, rfl, ⟨?_, fun index => ?_, ?_⟩, flat,
    room.trans ⟨rfl, rfl, rfl, rfl, rfl⟩, congrArg (· + 1) size⟩
  · change roomy.counters.levelCount = _
    rw [count, List.length_append, List.length_append]
    rfl
  · have inside : lower.length < (lower ++ [top]).length := by simp
    have updated := update_level level inside (top ++ [(name, value)]) index
    rwa [List.set_append_right _ _ le_rfl, Nat.sub_self, List.set_cons_zero] at updated
  · intro other member
    obtain below | last := List.mem_append.mp member
    · exact distinct other below
    · cases List.mem_singleton.mp last
      rw [List.map_append, List.nodup_append]
      refine ⟨topDistinct, List.nodup_singleton _, fun bound isBound other last same => ?_⟩
      cases List.mem_singleton.mp last
      cases same
      exact fresh isBound

theorem Binds.push (binds : snapshot.Binds bindings) (name : String) (value : Value) :
    ∃ after, Snapshot.push name value snapshot = .ok () after ∧
      after.Binds (bindings ++ [(name, value)]) ∧ snapshot.SameHeap after := by
  obtain ⟨levels, leveled, rfl⟩ := binds
  obtain ⟨lower, top, after, ran, pushed, flat, heap, -⟩ := leveled.push name value
  refine ⟨after, ran, ⟨_, pushed, ?_⟩, heap⟩
  rw [← flat]
  simp only [List.flatten_append, List.flatten_singleton, List.append_assoc]

/-! ### The innermost binding of a name -/

theorem contains_iff {index : Nat} {level : Bindings} {name : String} :
    (Level.mk index level).contains name = true ↔ name ∈ level.map Prod.fst := by
  change (level.lookup name).isSome = true ↔ _
  rw [List.lookup_isSome_iff, List.mem_map]
  constructor
  · rintro ⟨binding, member, same⟩
    exact ⟨binding, member, (beq_iff_eq.mp same).symm⟩
  · rintro ⟨binding, member, rfl⟩
    exact ⟨binding, member, beq_self_eq_true _⟩

/-- The search for a name stops at the topmost level that binds it. -/
theorem Leveled.levelOfBelow?_cases (leveled : snapshot.Leveled levels) (name : String)
    (count : Nat) :
    snapshot.levelOfBelow? name count = none ∧
        name ∉ (levels.take count).flatten.map Prod.fst ∨
      ∃ index level, snapshot.levelOfBelow? name count = some index ∧
        levels[index]? = some level ∧ name ∈ level.map Prod.fst ∧
        name ∉ ((levels.take count).drop (index + 1)).flatten.map Prod.fst := by
  induction count with
  | zero => exact .inl ⟨rfl, by simp⟩
  | succ top inductionHypothesis =>
    rw [levelOfBelow?, leveled.level, List.take_add_one]
    cases found : levels[top]? with
    | none => simpa using inductionHypothesis
    | some level =>
      have inside := (List.getElem?_eq_some_iff.mp found).1
      simp only [Option.map_some, Option.toList_some]
      by_cases bound : name ∈ level.map Prod.fst
      · rw [if_pos (contains_iff.mpr bound)]
        refine .inr ⟨top, level, rfl, found, bound, ?_⟩
        rw [List.drop_eq_nil_of_le (by simp)]
        exact List.not_mem_nil
      · rw [if_neg (mt contains_iff.mp bound)]
        refine inductionHypothesis.imp (fun missing => ⟨missing.1, ?_⟩) ?_
        · rw [List.flatten_append, List.flatten_singleton, List.map_append, List.mem_append]
          exact fun present => present.elim missing.2 bound
        · rintro ⟨index, below, searched, located, isBound, last⟩
          refine ⟨index, below, searched, located, isBound, ?_⟩
          have lower := Chain.levelOfBelow?_lt searched
          rw [List.drop_append_of_le_length (by rw [List.length_take]; omega), List.flatten_append,
            List.flatten_singleton, List.map_append, List.mem_append]
          exact fun present => present.elim last bound

/-- A name is not bound, or its last binding stands between others in one of the levels. -/
structure Leveled.Innermost (levels : List Bindings) (name : String) (index : Nat)
    (front back : Bindings) (value : Value) : Prop where
  level : levels[index]? = some (front ++ (name, value) :: back)
  first : name ∉ front.map Prod.fst
  last : name ∉ (back ++ (levels.drop (index + 1)).flatten).map Prod.fst

theorem Leveled.binding_cases (leveled : snapshot.Leveled levels) (name : String) :
    name ∉ levels.flatten.map Prod.fst ∧
        Snapshot.binding name snapshot = .error (.refused (.unboundName name)) snapshot ∨
      ∃ index front back value, Leveled.Innermost levels name index front back value ∧
        Snapshot.binding name snapshot =
          .ok (index, Level.mk index (front ++ (name, value) :: back), value) snapshot := by
  unfold binding
  rw [leveled.count]
  have searched := leveled.levelOfBelow?_cases name levels.length
  rw [List.take_length] at searched
  obtain ⟨missing, unbound⟩ | ⟨index, level, found, located, bound, last⟩ := searched
  · rw [missing]
    exact .inl ⟨unbound, rfl⟩
  · obtain ⟨⟨name, value⟩, member, rfl⟩ := List.mem_map.mp bound
    obtain ⟨front, back, rfl⟩ := List.append_of_mem member
    have distinct := leveled.distinct _ (List.mem_of_getElem? located)
    rw [List.map_append, List.map_cons, List.nodup_middle, List.nodup_cons, List.mem_append,
      not_or] at distinct
    obtain ⟨⟨first, later⟩, -⟩ := distinct
    refine .inr ⟨index, front, back, value, ⟨located, first, ?_⟩, ?_⟩
    · rw [List.map_append, List.mem_append]
      exact fun present => present.elim later last
    · have missing : front.lookup name = none := by
        rw [List.lookup_eq_none_iff]
        exact fun binding member => bne_iff_ne.mpr fun same =>
          first (List.mem_map.mpr ⟨binding, member, same.symm⟩)
      simp only [found, leveled.level, located, Option.map_some, Level.get?, List.lookup_append,
        missing, Option.none_or, List.lookup_cons_self]

variable {name : String} {index : Nat} {front back : Bindings} {value : Value}

/-- Giving the level of the innermost binding other contents changes the list of bindings there. -/
theorem Leveled.Innermost.split (innermost : Leveled.Innermost levels name index front back value)
    (changed : Bindings) :
    ∃ below above, levels.flatten = (below ++ front) ++ (name, value) :: (back ++ above) ∧
      name ∉ (back ++ above).map Prod.fst ∧
      (levels.set index changed).flatten = below ++ changed ++ above := by
  obtain ⟨inside, isHere⟩ := List.getElem?_eq_some_iff.mp innermost.level
  refine ⟨(levels.take index).flatten, (levels.drop (index + 1)).flatten, ?_, innermost.last, ?_⟩
  · conv_lhs => rw [← List.take_append_drop index levels, List.drop_eq_getElem_cons inside, isHere]
    simp only [List.flatten_append, List.flatten_cons, List.append_assoc, List.cons_append]
  · rw [List.set_eq_take_append_cons_drop, if_pos inside]
    simp only [List.flatten_append, List.flatten_cons, List.append_assoc]

theorem Leveled.putLevel (leveled : snapshot.Leveled levels) (inside : index < levels.length)
    {changed : Bindings} (distinct : (changed.map Prod.fst).Nodup) :
    (snapshot.putLevel index (Level.mk index changed)).Leveled (levels.set index changed) where
  count := by rw [List.length_set]; exact leveled.count
  level := update_level leveled.level inside changed
  distinct level member := by
    obtain before | rfl := List.mem_or_eq_of_mem_set member
    · exact leveled.distinct level before
    · exact distinct

/-! ### Overwriting -/

/-- Overwriting changes the innermost binding in its level. -/
theorem Leveled.replace_cases (leveled : snapshot.Leveled levels) (name : String) (value : Value) :
    name ∉ levels.flatten.map Prod.fst ∧
        Snapshot.replace name value snapshot =
          .error (.refused (.unboundName name)) snapshot ∨
      ∃ index front back old after, Leveled.Innermost levels name index front back old ∧
        Snapshot.replace name value snapshot = .ok old after ∧
        after.Leveled (levels.set index (front ++ (name, value) :: back)) ∧
        snapshot.SameHeap after ∧
        after.counters.stackSize = snapshot.counters.stackSize := by
  unfold Snapshot.replace
  obtain ⟨unbound, failed⟩ | ⟨index, front, back, old, innermost, found⟩ :=
    leveled.binding_cases name
  · rw [Action.bind_of_error failed]
    exact .inl ⟨unbound, rfl⟩
  · rw [Action.bind_of_ok found]
    have overwritten : (Level.mk index (front ++ (name, old) :: back)).set name value =
        Level.mk index (front ++ (name, value) :: back) := by
      have untouched (others : Bindings) (fresh : name ∉ others.map Prod.fst) :
          (others.map fun binding => if binding.1 = name then (name, value) else binding) =
            others := by
        refine (List.map_congr_left fun binding member => if_neg fun same => fresh ?_).trans
          (List.map_id' _)
        exact same ▸ List.mem_map_of_mem member
      have last := innermost.last
      rw [List.map_append, List.mem_append, not_or] at last
      simp only [Level.set, List.map_append, List.map_cons, untouched front innermost.first,
        untouched back last.1, if_true]
    have distinct := leveled.distinct _ (List.mem_of_getElem? innermost.level)
    rw [List.map_append, List.map_cons] at distinct
    refine .inr ⟨index, front, back, old, _, innermost, rfl, ?_, ⟨rfl, rfl, rfl, rfl, rfl⟩, rfl⟩
    rw [overwritten]
    refine leveled.putLevel (List.getElem?_eq_some_iff.mp innermost.level).1 ?_
    rwa [List.map_append, List.map_cons]

/-- Overwriting is refused if the name is not bound, and otherwise changes its last binding. -/
theorem Binds.replace_cases (binds : snapshot.Binds bindings) (name : String) (value : Value) :
    name ∉ bindings.map Prod.fst ∧
        Snapshot.replace name value snapshot =
          .error (.refused (.unboundName name)) snapshot ∨
      ∃ front old back after, bindings = front ++ (name, old) :: back ∧
        name ∉ back.map Prod.fst ∧ Snapshot.replace name value snapshot = .ok old after ∧
        after.Binds (front ++ (name, value) :: back) ∧ snapshot.SameHeap after := by
  obtain ⟨levels, leveled, rfl⟩ := binds
  refine (leveled.replace_cases name value).imp id ?_
  rintro ⟨index, front, back, old, after, innermost, ran, replaced, heap, -⟩
  obtain ⟨below, above, flat, last, flatAfter⟩ := innermost.split (front ++ (name, value) :: back)
  refine ⟨below ++ front, old, back ++ above, after, flat, last, ran, ⟨_, replaced, ?_⟩, heap⟩
  rw [flatAfter]
  simp only [List.append_assoc, List.cons_append]

/-! ### Unbinding -/

theorem sameHeap_dropEmptyLevels (count : Nat) (snapshot : Snapshot) :
    snapshot.SameHeap (snapshot.dropEmptyLevels count) := by
  induction count generalizing snapshot with
  | zero => exact ⟨rfl, rfl, rfl, rfl, rfl⟩
  | succ top inductionHypothesis =>
    rw [dropEmptyLevels]
    split
    · have cut : snapshot.SameHeap (snapshot.cut top) := ⟨rfl, rfl, rfl, rfl, rfl⟩
      exact cut.trans (inductionHypothesis (snapshot.cut top))
    · exact ⟨rfl, rfl, rfl, rfl, rfl⟩

theorem Leveled.cut {lower : List Bindings} {top : Bindings}
    (leveled : snapshot.Leveled (lower ++ [top])) :
    (snapshot.cut lower.length).Leveled lower where
  count := rfl
  level index := by
    change (if index < lower.length then snapshot.level? index else none) = _
    split
    · rename_i inside
      rw [leveled.level, List.getElem?_append_left inside]
    · rename_i outside
      rw [List.getElem?_eq_none (Nat.le_of_not_lt outside)]
      rfl
  distinct level member := leveled.distinct level (List.mem_append_left _ member)

theorem stackSize_dropEmptyLevels (count : Nat) (snapshot : Snapshot) :
    (snapshot.dropEmptyLevels count).counters.stackSize = snapshot.counters.stackSize := by
  induction count generalizing snapshot with
  | zero => rfl
  | succ top inductionHypothesis =>
    rw [dropEmptyLevels]
    split
    · exact inductionHypothesis (snapshot.cut top)
    · rfl

/-- Dropping levels that are empty loses no binding, and leaves none on top. -/
theorem Leveled.dropEmptyLevels (leveled : snapshot.Leveled levels) :
    ∃ kept, (snapshot.dropEmptyLevels levels.length).Leveled kept ∧
      kept.flatten = levels.flatten ∧ kept.getLast? ≠ some [] := by
  induction levels using List.reverseRecOn generalizing snapshot with
  | nil => exact ⟨[], leveled, rfl, fun impossible => nomatch impossible⟩
  | append_singleton lower top inductionHypothesis =>
    rw [List.length_append, List.length_singleton, Snapshot.dropEmptyLevels, leveled.level,
      List.getElem?_concat_length]
    split
    · rename_i dropped
      have empty : top = [] := by simpa [Level.isEmpty] using dropped
      rw [empty, List.flatten_append, List.flatten_singleton, List.append_nil]
      exact inductionHypothesis leveled.cut
    · rename_i stays
      refine ⟨lower ++ [top], leveled, rfl, fun empty => stays ?_⟩
      rw [List.getLast?_concat] at empty
      cases empty
      rfl

/-- Removing takes the innermost binding out of its level. -/
theorem Leveled.remove_cases (leveled : snapshot.Leveled levels) (name : String) :
    name ∉ levels.flatten.map Prod.fst ∧
        Snapshot.remove name snapshot = .error (.refused (.unboundName name)) snapshot ∨
      ∃ index front back value kept after, Leveled.Innermost levels name index front back value ∧
        Snapshot.remove name snapshot = .ok value after ∧ after.Leveled kept ∧
        kept.flatten = (levels.set index (front ++ back)).flatten ∧ kept.getLast? ≠ some [] ∧
        snapshot.SameHeap after ∧
        after.counters.stackSize = snapshot.counters.stackSize - 1 := by
  unfold Snapshot.remove
  obtain ⟨unbound, failed⟩ | ⟨index, front, back, value, innermost, found⟩ :=
    leveled.binding_cases name
  · rw [Action.bind_of_error failed]
    exact .inl ⟨unbound, rfl⟩
  · rw [Action.bind_of_ok found]
    have erased : (Level.mk index (front ++ (name, value) :: back)).erase name =
        Level.mk index (front ++ back) := by
      have untouched (others : Bindings) (fresh : name ∉ others.map Prod.fst) :
          others.filter (fun binding => binding.1 != name) = others :=
        List.filter_eq_self.mpr fun binding member => bne_iff_ne.mpr fun same =>
          fresh (same ▸ List.mem_map_of_mem member)
      have last := innermost.last
      rw [List.map_append, List.mem_append, not_or] at last
      simp only [Level.erase, List.filter_append, List.filter_cons, bne_self_eq_false,
        untouched front innermost.first, untouched back last.1, Bool.false_eq_true, if_false]
    have distinct := leveled.distinct _ (List.mem_of_getElem? innermost.level)
    rw [List.map_append, List.map_cons, List.nodup_middle, List.nodup_cons, ← List.map_append]
      at distinct
    let smaller := mapCounters (fun counters =>
      { counters with stackSize := counters.stackSize - 1 })
      (snapshot.putLevel index (Level.mk index (front ++ back)))
    have put := leveled.putLevel (List.getElem?_eq_some_iff.mp innermost.level).1 distinct.2
    have leveledSmaller : smaller.Leveled (levels.set index (front ++ back)) :=
      ⟨put.count, put.level, put.distinct⟩
    have unbinding : unbind name index (Level.mk index (front ++ (name, value) :: back)) snapshot =
        smaller.dropEmptyLevels (levels.set index (front ++ back)).length := by
      unfold unbind
      rw [erased, ← leveledSmaller.count]
    obtain ⟨kept, leveledKept, flat, filled⟩ := leveledSmaller.dropEmptyLevels
    have heap : snapshot.SameHeap smaller := ⟨rfl, rfl, rfl, rfl, rfl⟩
    refine .inr ⟨index, front, back, value, kept, _, innermost, rfl, ?_, flat, filled, ?_, ?_⟩
    · rwa [unbinding]
    · rw [unbinding]
      exact heap.trans (sameHeap_dropEmptyLevels _ _)
    · rw [unbinding, stackSize_dropEmptyLevels]
      rfl

/-- Removing is refused if the name is not bound, and otherwise takes its last binding out of the
list. -/
theorem Binds.remove_cases (binds : snapshot.Binds bindings) (name : String) :
    name ∉ bindings.map Prod.fst ∧
        Snapshot.remove name snapshot = .error (.refused (.unboundName name)) snapshot ∨
      ∃ front value back after, bindings = front ++ (name, value) :: back ∧
        name ∉ back.map Prod.fst ∧ Snapshot.remove name snapshot = .ok value after ∧
        after.Binds (front ++ back) ∧ snapshot.SameHeap after := by
  obtain ⟨levels, leveled, rfl⟩ := binds
  refine (leveled.remove_cases name).imp id ?_
  rintro ⟨index, front, back, value, kept, after, innermost, ran, removed, flatKept, -, heap, -⟩
  obtain ⟨below, above, flat, last, flatAfter⟩ := innermost.split (front ++ back)
  refine ⟨below ++ front, value, back ++ above, after, flat, last, ran, ⟨kept, removed, ?_⟩, heap⟩
  rw [flatKept, flatAfter]
  simp only [List.append_assoc]

/-- Removing the binding made last. -/
theorem Binds.remove (binds : snapshot.Binds (bindings ++ [(name, value)])) :
    ∃ after, Snapshot.remove name snapshot = .ok value after ∧ after.Binds bindings ∧
      snapshot.SameHeap after := by
  obtain ⟨unbound, -⟩ | ⟨front, removed, back, after, split, later, ran, binds, heap⟩ :=
    binds.remove_cases name
  · exact absurd (by simp) unbound
  · obtain rfl | ⟨kept, last, rfl⟩ := back.eq_nil_or_concat'
    · obtain ⟨rfl, same⟩ := List.append_inj' split rfl
      cases same
      rw [List.append_nil] at binds
      exact ⟨after, ran, binds, heap⟩
    · rw [← List.cons_append, ← List.append_assoc] at split
      obtain ⟨-, same⟩ := List.append_inj' split rfl
      cases same
      exact absurd (by simp) later

end Snapshot

end Rewind
