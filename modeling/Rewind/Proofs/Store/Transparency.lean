/-
This file compares a store whose newest generations were merged with the same store where they were
not, now and for all that may be done later. At first the same is seen of both. From then on both
get the same operations, except that a checkpoint is replaced by the one which the same freeze gave
on the other side; and as long as no operation reaches below the generation that was the newest at
the merge, both give the same answers.

The relation that carries this lays the two chains side by side: the generations started since then
have the same ids and resume points and show the same on both sides, and so do the ones that were
the newest at the start, whatever lies below them.
-/

import Mathlib
import Rewind.Proofs.Store.Checkpoints
import Rewind.Proofs.Store.Lockstep
import Rewind.Proofs.Store.Merging

namespace Rewind

/-! ### Chains side by side -/

/-- Where the common part of two chains begins: the ids and depths of the lowest generations in
it. -/
structure Footing where
  leftId : Nat
  leftDepth : Nat
  rightId : Nat
  rightDepth : Nat

/-- Two chains with `count` generations on top of their footing that look the same on both sides. -/
inductive Generation.Beside (footing : Footing) :
    Nat → List Generation → List Generation → Prop
  | foot {left right : Generation} {older older' : List Generation}
    (leftId : left.id = footing.leftId) (leftDepth : older.length = footing.leftDepth)
    (rightId : right.id = footing.rightId) (rightDepth : older'.length = footing.rightDepth)
    (seen : (left.over older).erased = (right.over older').erased) :
    Beside footing 0 (left :: older) (right :: older')
  | above {count : Nat} {left right : Generation} {older older' : List Generation}
    (below : Beside footing count older older') (id : left.id = right.id)
    (resume : left.resume = right.resume)
    (seen : (left.over older).erased = (right.over older').erased) :
    Beside footing (count + 1) (left :: older) (right :: older')

namespace Generation

variable {footing : Footing} {count : Nat} {lefts rights : List Generation}

theorem Beside.length (beside : Beside footing count lefts rights) :
    lefts.length = footing.leftDepth + count + 1 ∧
      rights.length = footing.rightDepth + count + 1 := by
  induction beside with
  | foot leftId leftDepth rightId rightDepth seen =>
    simp only [List.length_cons]
    omega
  | above below id resume seen inductionHypothesis =>
    simp only [List.length_cons]
    omega

theorem Beside.drop (beside : Beside footing count lefts rights) {dropped : Nat}
    (inside : dropped ≤ count) :
    Beside footing (count - dropped) (lefts.drop dropped) (rights.drop dropped) := by
  induction beside generalizing dropped with
  | foot leftId leftDepth rightId rightDepth seen =>
    cases Nat.le_zero.mp inside
    exact .foot leftId leftDepth rightId rightDepth seen
  | @above count left right older older' below id resume seen inductionHypothesis =>
    cases dropped with
    | zero => exact .above below id resume seen
    | succ dropped =>
      rw [Nat.succ_sub_succ]
      exact inductionHypothesis (Nat.le_of_succ_le_succ inside)

/-- The topmost generations may change inside, as long as the same is seen of both. -/
theorem Beside.changeTop {left right left' right' : Generation} {older older' : List Generation}
    (beside : Beside footing count (left :: older) (right :: older'))
    (leftId : left'.id = left.id) (leftResume : left'.resume = left.resume)
    (rightId : right'.id = right.id) (rightResume : right'.resume = right.resume)
    (seen : (left'.over older).erased = (right'.over older').erased) :
    Beside footing count (left' :: older) (right' :: older') := by
  cases beside with
  | foot footId leftDepth footId' rightDepth _ =>
    exact .foot (leftId.trans footId) leftDepth (rightId.trans footId') rightDepth seen
  | above below id resume _ =>
    exact .above below ((leftId.trans id).trans rightId.symm)
      ((leftResume.trans resume).trans rightResume.symm) seen

theorem Beside.seen {left right : Generation} {older older' : List Generation}
    (beside : Beside footing count (left :: older) (right :: older')) :
    (left.over older).erased = (right.over older').erased := by
  cases beside with
  | foot _ _ _ _ seen => exact seen
  | above _ _ _ seen => exact seen

/-- The generations at the same height above the footing. -/
theorem Beside.getElem? (beside : Beside footing count lefts rights) {height : Nat}
    (inside : height ≤ count) :
    ∃ left right, lefts[count - height]? = some left ∧ rights[count - height]? = some right ∧
      (height = 0 → left.id = footing.leftId ∧ right.id = footing.rightId) ∧
      (0 < height → left.id = right.id ∧ left.resume = right.resume) := by
  induction beside with
  | @foot left right older older' leftId leftDepth rightId rightDepth seen =>
    cases Nat.le_zero.mp inside
    exact ⟨left, right, rfl, rfl, fun _ => ⟨leftId, rightId⟩,
      fun positive => absurd positive (Nat.lt_irrefl 0)⟩
  | @above count left right older older' below id resume seen inductionHypothesis =>
    obtain lower | same := Nat.lt_or_eq_of_le inside
    · rw [Nat.succ_sub (Nat.le_of_lt_succ lower)]
      exact inductionHypothesis (Nat.le_of_lt_succ lower)
    · subst same
      rw [Nat.sub_self]
      exact ⟨left, right, rfl, rfl, fun zero => absurd zero (Nat.succ_ne_zero count),
        fun _ => ⟨id, resume⟩⟩

end Generation

/-- The answer of an action, or why it failed. -/
def Action.answer {ε σ α : Type} : EStateM.Result ε σ α → Except ε α
  | .ok value _ => .ok value
  | .error error _ => .error error

theorem Action.eq_ok_of_answer {ε σ α : Type} {result : EStateM.Result ε σ α} {value : α}
    (answered : answer result = .ok value) : result = .ok value (reached result) := by
  cases result with
  | ok found state => cases answered; rfl
  | error fault state => cases answered

theorem Action.eq_error_of_answer {ε σ α : Type} {result : EStateM.Result ε σ α} {fault : ε}
    (answered : answer result = .error fault) : result = .error fault (reached result) := by
  cases result with
  | ok found state => cases answered
  | error found state => cases answered; rfl

theorem Action.Agree.answered {α : Type} {alike : Store → Store → Prop} {left right : Store}
    {action other : StoreM α} (agree : Agree alike id (action left) (other right))
    (answers : α → Answer) :
    (answer ((do return answers (← action) : StoreM Answer) left)).map Answer.erased =
        (answer ((do return answers (← other) : StoreM Answer) right)).map Answer.erased ∧
      alike (reached ((do return answers (← action) : StoreM Answer) left))
        (reached ((do return answers (← other) : StoreM Answer) right)) := by
  generalize ran : action left = outcome at agree
  generalize ran' : other right = outcome' at agree
  cases agree with
  | error still =>
    rw [bind_of_error ran, bind_of_error ran']
    exact ⟨rfl, still⟩
  | ok same still =>
    rw [bind_of_ok ran, bind_of_ok ran']
    exact ⟨congrArg (fun value => Except.ok (answers value).erased) same, still⟩

/-! ### Checkpoints of the same freeze -/

/-- Two checkpoints that the same freeze gave on both sides: they name the generations at the same
height above the footing. -/
structure Checkpoint.Paired (footing : Footing) (left right : Checkpoint) : Prop where
  successor : left.successor = right.successor
  placed : ∃ height, left.depth = footing.leftDepth + height ∧
    right.depth = footing.rightDepth + height ∧
    (height = 0 → left.id = footing.leftId ∧ right.id = footing.rightId) ∧
    (0 < height → left.id = right.id)

/-- Two checkpoints of a freeze before everything was cleared. -/
structure Checkpoint.Gone (left right : Checkpoint) (store other : Store) : Prop where
  successor : left.successor = right.successor
  left : Store.Renews 0 (left.id + 1) store
  right : Store.Renews 0 (right.id + 1) other

/-- Two stores side by side. -/
structure Store.Beside (footing : Footing) (count : Nat) (left right : Store) : Prop where
  alike : left.Alike right
  generations : Generation.Beside footing count left.chain.generations right.chain.generations
  layeredLeft : Generation.Layered left.chain.generations
  layeredRight : Generation.Layered right.chain.generations

namespace Store

variable {footing : Footing} {count : Nat} {left right : Store}

theorem Beside.size (beside : Beside footing count left right) :
    left.chain.older.length = footing.leftDepth + count ∧
      right.chain.older.length = footing.rightDepth + count := by
  obtain ⟨first, second⟩ := beside.generations.length
  simp only [Chain.generations, List.length_cons] at first second
  omega

/-- The generations that checkpoints of the same freeze name. -/
theorem Beside.generationAt? (beside : Beside footing count left right) (height : Nat) :
    (count < height ∧ left.chain.generationAt? (footing.leftDepth + height) = none ∧
        right.chain.generationAt? (footing.rightDepth + height) = none) ∨
      height ≤ count ∧ ∃ first second,
        left.chain.generationAt? (footing.leftDepth + height) = some first ∧
        right.chain.generationAt? (footing.rightDepth + height) = some second ∧
        (height = 0 → first.id = footing.leftId ∧ second.id = footing.rightId) ∧
        (0 < height → first.id = second.id ∧ first.resume = second.resume) := by
  obtain ⟨leftSize, rightSize⟩ := beside.size
  unfold Chain.generationAt?
  rw [leftSize, rightSize]
  by_cases inside : height ≤ count
  · right
    rw [if_pos (Nat.add_le_add_left inside _), if_pos (Nat.add_le_add_left inside _),
      Nat.add_sub_add_left, Nat.add_sub_add_left]
    exact ⟨inside, beside.generations.getElem? inside⟩
  · left
    rw [if_neg (by omega), if_neg (by omega)]
    exact ⟨Nat.lt_of_not_le inside, rfl, rfl⟩

theorem Beside.holds {taken other : Checkpoint} (beside : Beside footing count left right)
    (paired : taken.Paired footing other) : left.holds taken = right.holds other := by
  obtain ⟨-, height, leftDepth, rightDepth, foot, above⟩ := paired
  unfold Store.holds
  rw [leftDepth, rightDepth]
  obtain ⟨-, noLeft, noRight⟩ | ⟨-, first, second, atLeft, atRight, footIds, aboveIds⟩ :=
    beside.generationAt? height
  · rw [noLeft, noRight]
    rfl
  · rw [atLeft, atRight]
    change (first.id == taken.id) = (second.id == other.id)
    obtain zero | positive := Nat.eq_zero_or_pos height
    · rw [(footIds zero).1, (footIds zero).2, (foot zero).1, (foot zero).2, beq_self_eq_true,
        beq_self_eq_true]
    · rw [(aboveIds positive).1, above positive]

/-- What the same freeze started is found on both sides or on none. -/
theorem Beside.startedBy? {taken other : Checkpoint} (beside : Beside footing count left right)
    (paired : taken.Paired footing other) :
    (left.startedBy? taken).map Generation.resume =
      (right.startedBy? other).map Generation.resume := by
  have held := beside.holds paired
  obtain ⟨successor, height, leftDepth, rightDepth, -⟩ := paired
  unfold Store.startedBy?
  rw [held]
  split
  · rw [leftDepth, rightDepth, Nat.add_assoc, Nat.add_assoc]
    obtain ⟨-, noLeft, noRight⟩ | ⟨-, first, second, atLeft, atRight, -, aboveIds⟩ :=
      beside.generationAt? (height + 1)
    · rw [noLeft, noRight]
      rfl
    · obtain ⟨id, resume⟩ := aboveIds (Nat.succ_pos height)
      rw [atLeft, atRight]
      simp only [Option.filter, id, successor]
      split
      · exact congrArg some resume
      · rfl
  · rfl

theorem holds_of_renews {checkpoint : Checkpoint} {store : Store}
    (renewed : Renews 0 (checkpoint.id + 1) store) : store.holds checkpoint = false := by
  refine Bool.eq_false_iff.mpr fun held => ?_
  obtain ⟨generation, found, same⟩ := inside_of_holds held
  have later := renewed.fresh _ generation (Nat.zero_le _) found
  omega

/-- Checkpoints of a freeze before everything was cleared are refused on both sides. -/
theorem restore_of_gone {taken other : Checkpoint} (gone : taken.Gone other left right)
    {alike : Store → Store → Prop} (reached : alike left right) :
    Action.Agree alike id (restore taken left) (restore other right) := by
  have unheld {checkpoint : Checkpoint} {store : Store}
      (renewed : Renews 0 (checkpoint.id + 1) store) :
      restore checkpoint store = .error (.refused .nothingToRestore) store := by
    unfold restore
    rw [Action.bind_of_ok (rfl : (get : StoreM Store) store = .ok store store), startedBy?,
      holds_of_renews renewed]
    rfl
  rw [unheld gone.left, unheld gone.right]
  exact .error reached

theorem collapse_of_gone {taken other : Checkpoint} (gone : taken.Gone other left right)
    {alike : Store → Store → Prop} (reached : alike left right) :
    Action.Agree alike id (collapse taken left) (collapse other right) := by
  have unheld {checkpoint : Checkpoint} {store : Store}
      (renewed : Renews 0 (checkpoint.id + 1) store) :
      collapse checkpoint store = .error (.refused .staleCheckpoint) store := by
    obtain ⟨failed, -⟩ | ⟨held, -⟩ := store.collapse_cases checkpoint
    · exact failed
    · rw [holds_of_renews renewed] at held
      cases held
  rw [unheld gone.left, unheld gone.right]
  exact .error reached

/-! ### One operation on both sides -/

theorem Beside.access (beside : Beside footing count left right) {made other : Access}
    (lockstep : Action.Lockstep Alike Answer.erased made.perform other.perform) :
    (Action.answer (made.perform left)).map Answer.erased =
        (Action.answer (other.perform right)).map Answer.erased ∧
      Beside footing count (Action.reached (made.perform left))
        (Action.reached (other.perform right)) := by
  have keeps := (made.keeps_perform beside.alike.chain.wipedLeft).chain
  have keeps' := (other.keeps_perform beside.alike.chain.wipedRight).chain
  have layered := (Operation.access made).layered_perform beside.alike.chain.wipedLeft
    beside.layeredLeft
  have layered' := (Operation.access other).layered_perform beside.alike.chain.wipedRight
    beside.layeredRight
  have agree := lockstep left right beside.alike
  change Generation.Layered (Action.reached (made.perform left)).chain.generations at layered
  change Generation.Layered (Action.reached (other.perform right)).chain.generations at layered'
  generalize made.perform left = outcome at agree keeps layered
  generalize other.perform right = outcome' at agree keeps' layered'
  have together {reached reached' : Store} (alike : reached.Alike reached')
      (keeps : left.chain.Keeps reached.chain) (keeps' : right.chain.Keeps reached'.chain)
      (layered : Generation.Layered reached.chain.generations)
      (layered' : Generation.Layered reached'.chain.generations) :
      Beside footing count reached reached' := by
    refine ⟨alike, ?_, layered, layered'⟩
    have seen := alike.chain.seen
    unfold Chain.snapshot at seen
    unfold Chain.generations
    rw [keeps.older, keeps'.older] at seen ⊢
    exact beside.generations.changeTop keeps.id keeps.resume keeps'.id keeps'.resume seen
  cases agree with
  | ok same reached =>
    exact ⟨congrArg Except.ok same, together reached keeps keeps' layered layered'⟩
  | error reached => exact ⟨rfl, together reached keeps keeps' layered layered'⟩

theorem snapshot_extend (chain : Chain) (id : Nat) (resume : ResumePoint) :
    (chain.extend id resume).snapshot = chain.snapshot := by
  refine Snapshot.ext (funext fun position => ?_) (funext fun index => ?_) rfl
  · change (if position < chain.counters.heapSize then
      (Generation.findCell? position (chain.tail.successor id resume :: chain.generations)).map
        Prod.fst else none) = _
    simp only [Generation.findCell?, Generation.successor, Std.TreeMap.getElem?_emptyc,
      Option.map_map]
    rfl
  · change (if index < chain.counters.levelCount then
      Generation.findLevel? index (chain.tail.successor id resume :: chain.generations)
        else none) = _
    simp only [Generation.findLevel?, Generation.successor, Std.TreeMap.getElem?_emptyc]
    rfl

theorem Beside.freeze (beside : Beside footing count left right) (resume : ResumePoint) :
    Beside footing (count + 1) (left.freeze resume).2 (right.freeze resume).2 ∧
      (left.freeze resume).1.Paired footing (right.freeze resume).1 := by
  have alike := beside.alike
  refine ⟨⟨⟨⟨?_, alike.chain.wipedLeft, alike.chain.wipedRight⟩, congrArg (· + 1) alike.nextId,
    alike.settings, alike.sweeping, alike.sweepRequested⟩, ?_,
    ⟨Generation.rooted_successor _ _ _ resume, beside.layeredLeft⟩,
    ⟨Generation.rooted_successor _ _ _ resume, beside.layeredRight⟩⟩,
    alike.nextId, count, beside.size.1, beside.size.2, ?_⟩
  · rw [freeze_chain, freeze_chain, snapshot_extend, snapshot_extend, alike.chain.seen]
  · refine .above beside.generations alike.nextId rfl ?_
    change (left.chain.extend left.nextId resume).snapshot.erased =
      (right.chain.extend right.nextId resume).snapshot.erased
    rw [snapshot_extend, snapshot_extend, alike.chain.erased]
  · obtain ⟨first, second, atLeft, atRight, foot, above⟩ :=
      beside.generations.getElem? (Nat.le_refl count)
    rw [Nat.sub_self] at atLeft atRight
    cases atLeft
    cases atRight
    exact ⟨foot, fun positive => (above positive).1⟩

/-- Stores stay side by side when their chains do and nothing else changes. -/
theorem Beside.onChains {height : Nat} (beside : Beside footing count left right)
    {chain chain' : Chain} {journal journal' : Journal}
    (generations : Generation.Beside footing height chain.generations chain'.generations)
    (wiped : chain.pools.Wiped) (wiped' : chain'.pools.Wiped)
    (layered : Generation.Layered chain.generations)
    (layered' : Generation.Layered chain'.generations) :
    Beside footing height { left with chain := chain, journal := journal }
      { right with chain := chain', journal := journal' } :=
  ⟨{ beside.alike with chain := ⟨generations.seen, wiped, wiped'⟩ }, generations, layered, layered'⟩

theorem Beside.rollback (beside : Beside footing (count + 1) left right) :
    left.rollback.1 = right.rollback.1 ∧
      Beside footing count left.rollback.2 right.rollback.2 := by
  have wiped := Chain.wiped_discardTail beside.alike.chain.wipedLeft
  have wiped' := Chain.wiped_discardTail beside.alike.chain.wipedRight
  have layered := Chain.layered_discardTail beside.layeredLeft
  have layered' := Chain.layered_discardTail beside.layeredRight
  obtain ⟨leftSize, rightSize⟩ := beside.size
  have chains := beside.generations
  unfold Chain.generations at chains
  unfold Store.rollback
  cases below : left.chain.older with
  | nil =>
    rw [below] at leftSize
    cases leftSize
  | cons tail older =>
    cases below' : right.chain.older with
    | nil =>
      rw [below'] at rightSize
      cases rightSize
    | cons tail' older' =>
      rw [below, below'] at chains
      cases chains with
      | above lower id resume seen =>
        refine ⟨resume, beside.onChains ?_ wiped wiped' layered layered'⟩
        simp only [Chain.discardTail, below, below']
        exact lower

/-- Where nothing lies below the footing, rolling back past it is refused on both sides. -/
theorem Beside.rollback_foot {floor : Option Nat} (beside : Beside footing 0 left right)
    (grounded : floor = some footing.leftDepth ∨ footing.leftDepth = 0 ∧ footing.rightDepth = 0)
    (above : ∀ depth ∈ floor, depth < left.chain.older.length) :
    left.rollback.1 = right.rollback.1 ∧ Beside footing 0 left.rollback.2 right.rollback.2 := by
  obtain ⟨leftSize, rightSize⟩ := beside.size
  obtain same | ⟨leftZero, rightZero⟩ := grounded
  · exact absurd (above _ same) (by omega)
  · have leftAlone : left.chain.older = [] := List.length_eq_zero_iff.mp (by omega)
    have rightAlone : right.chain.older = [] := List.length_eq_zero_iff.mp (by omega)
    unfold Store.rollback
    rw [leftAlone, rightAlone]
    exact ⟨rfl, beside.onChains beside.generations beside.alike.chain.wipedLeft
      beside.alike.chain.wipedRight beside.layeredLeft beside.layeredRight⟩

theorem generations_discardTo {chain : Chain} {depth : Nat} (inside : depth ≤ chain.older.length) :
    (chain.discardTo depth).generations =
      chain.generations.drop (chain.older.length - depth) := by
  have reversed := (Chain.lineage_discardTo inside).trans (Chain.lineage_drop inside).symm
  exact List.reverse_injective reversed

/-- A merged chain stands on what lay below, under the id and resume point that were there. -/
theorem mergeTo_top {chain : Chain} {depth : Nat} (inside : depth ≤ chain.older.length) :
    ∃ target older, chain.generations.drop (chain.older.length - depth) = target :: older ∧
      (chain.mergeTo depth).older = older ∧ (chain.mergeTo depth).tail.id = target.id ∧
      (chain.mergeTo depth).tail.resume = target.resume := by
  unfold Chain.mergeTo
  split
  · rename_i dropped
    have size := congrArg List.length dropped
    simp only [List.length_drop, Chain.generations, List.length_cons, List.length_nil] at size
    omega
  · rename_i target older dropped
    exact ⟨target, older, dropped, rfl, (Chain.foldl_mergeInto_keeps _ _).1,
      (Chain.foldl_mergeInto_keeps _ _).2⟩

/-- A checkpoint that is held names a generation above the footing. -/
theorem Beside.height_le {taken other : Checkpoint} (beside : Beside footing count left right)
    (paired : taken.Paired footing other) (held : left.holds taken = true) :
    ∃ height ≤ count, left.chain.older.length - taken.depth = count - height ∧
      right.chain.older.length - other.depth = count - height ∧
      taken.depth ≤ left.chain.older.length ∧ other.depth ≤ right.chain.older.length := by
  obtain ⟨leftSize, rightSize⟩ := beside.size
  obtain ⟨-, height, leftDepth, rightDepth, -⟩ := paired
  have inside := depth_le_of_holds held
  refine ⟨height, by omega, by omega, by omega, by omega, by omega⟩

theorem Beside.restore {taken other : Checkpoint} (beside : Beside footing count left right)
    (paired : taken.Paired footing other) :
    Action.Agree (fun first second => ∃ height, Beside footing height first second) id
      (Store.restore taken left) (Store.restore other right) := by
  have started := beside.startedBy? paired
  unfold Store.restore
  rw [Action.bind_of_ok (rfl : (get : StoreM Store) left = .ok left left),
    Action.bind_of_ok (rfl : (get : StoreM Store) right = .ok right right)]
  cases found : left.startedBy? taken with
  | none =>
    rw [found] at started
    rw [Option.map_eq_none_iff.mp started.symm]
    exact .error ⟨count, beside⟩
  | some first =>
    have held := (started_of_startedBy? found).1
    rw [found] at started
    obtain ⟨second, found', resumes⟩ := Option.map_eq_some_iff.mp started.symm
    rw [found']
    simp only [resumes]
    cases first.resume with
    | none => exact .error ⟨count, beside⟩
    | some resume =>
      obtain ⟨height, inside, leftCount, rightCount, leftInside, rightInside⟩ :=
        beside.height_le paired held
      refine .ok rfl ⟨height, beside.onChains ?_
        (Chain.wiped_discardTo beside.alike.chain.wipedLeft _)
        (Chain.wiped_discardTo beside.alike.chain.wipedRight _)
        (Chain.layered_discardTo beside.layeredLeft _)
        (Chain.layered_discardTo beside.layeredRight _)⟩
      rw [generations_discardTo leftInside, generations_discardTo rightInside, leftCount,
        rightCount]
      have dropped := beside.generations.drop (Nat.sub_le count height)
      rwa [Nat.sub_sub_self inside] at dropped

theorem Beside.collapse {taken other : Checkpoint} (beside : Beside footing count left right)
    (paired : taken.Paired footing other) :
    Action.Agree (fun first second => ∃ height, Beside footing height first second) id
      (Store.collapse taken left) (Store.collapse other right) := by
  have held := beside.holds paired
  obtain ⟨failed, unheld⟩ | ⟨leftHeld, merged, succeeded, chain, nextId, settings, sweeping,
    requested⟩ := left.collapse_cases taken
  · obtain ⟨failed', -⟩ | ⟨rightHeld, -⟩ := right.collapse_cases other
    · rw [failed, failed']
      exact .error ⟨count, beside⟩
    · rw [unheld, rightHeld] at held
      cases held
  · obtain ⟨-, unheld⟩ | ⟨-, merged', succeeded', chain', nextId', settings', sweeping',
      requested'⟩ := right.collapse_cases other
    · rw [leftHeld, unheld] at held
      cases held
    · obtain ⟨height, inside, leftCount, rightCount, leftInside, rightInside⟩ :=
        beside.height_le paired leftHeld
      obtain ⟨seen, layered⟩ := Chain.mergeTo_spec beside.layeredLeft taken.depth
      obtain ⟨seen', layered'⟩ := Chain.mergeTo_spec beside.layeredRight other.depth
      have wiped := Chain.wiped_mergeTo beside.alike.chain.wipedLeft taken.depth
      have wiped' := Chain.wiped_mergeTo beside.alike.chain.wipedRight other.depth
      obtain ⟨target, older, dropped, below, id, resume⟩ := mergeTo_top leftInside
      obtain ⟨target', older', dropped', below', id', resume'⟩ := mergeTo_top rightInside
      have alike := beside.alike
      have same : (left.chain.mergeTo taken.depth).snapshot.erased =
          (right.chain.mergeTo other.depth).snapshot.erased := by
        rw [seen, seen', alike.chain.erased]
      rw [succeeded, succeeded']
      refine .ok rfl ⟨height, ?_⟩
      rw [← chain] at same seen layered wiped below id resume
      rw [← chain'] at same seen' layered' wiped' below' id' resume'
      refine ⟨⟨⟨same, wiped, wiped'⟩, by rw [nextId, nextId', alike.nextId],
        by rw [settings, settings', alike.settings], by rw [sweeping, sweeping', alike.sweeping],
        by rw [requested, requested', alike.sweepRequested]⟩, ?_, layered, layered'⟩
      have lower := beside.generations.drop (Nat.sub_le count height)
      rw [Nat.sub_sub_self inside, ← leftCount, dropped, leftCount, ← rightCount, dropped'] at lower
      unfold Chain.generations
      unfold Chain.snapshot at same
      rw [below, below'] at same ⊢
      exact lower.changeTop id resume id' resume' same

/-- Cleared stores stand on new ground, the same on both sides. -/
theorem Beside.clear (beside : Beside footing count left right) :
    Beside ⟨left.nextId, 0, right.nextId, 0⟩ 0 left.clear right.clear := by
  have alike := beside.alike
  have seen : ((Generation.oldest left.nextId left.settings.sweepThreshold).over []).erased =
      ((Generation.oldest right.nextId right.settings.sweepThreshold).over []).erased := by
    rw [alike.settings]
    rfl
  refine ⟨⟨⟨seen, Generation.wiped_foldl_recycle alike.chain.wipedLeft _,
    Generation.wiped_foldl_recycle alike.chain.wipedRight _⟩, congrArg (· + 1) alike.nextId,
    alike.settings, alike.sweeping, rfl⟩, .foot rfl rfl rfl rfl seen, ?_, ?_⟩
  · exact ⟨fun index inside => absurd inside (Nat.not_lt_zero index), trivial⟩
  · exact ⟨fun index inside => absurd inside (Nat.not_lt_zero index), trivial⟩

end Store

/-! ### Later runs -/

/-- The one of some checkpoints that comes from the same freeze. -/
def Checkpoint.via (issued : List Checkpoint) (checkpoint : Checkpoint) : Checkpoint :=
  (issued.find? fun other => other.successor == checkpoint.successor).getD checkpoint

/-- An operation with its checkpoints replaced by those of the same freezes. -/
def Operation.via (issued : List Checkpoint) : Operation → Operation
  | .access made => .access (made.mapCheckpoint (Checkpoint.via issued))
  | .restore taken => .restore (taken.via issued)
  | .collapse taken => .collapse (taken.via issued)
  | operation => operation

/-- The checkpoint that an operation gives. -/
def Operation.issues (operation : Operation) (store : Store) : List Checkpoint :=
  match operation with
  | .freeze resume => [(store.freeze resume).1]
  | _ => []

/-- An operation reaches no further back than to the generation at a depth: it undoes and merges
only what some checkpoints were taken for. Nothing is out of reach once the store has been
cleared. -/
def Operation.Confined (floor : Option Nat) (issued : List Checkpoint) (store : Store) :
    Operation → Prop
  | .access made => made.Discreet
  | .freeze _ | .clear => True
  | .rollback => ∀ depth ∈ floor, depth < store.chain.older.length
  | .restore taken | .collapse taken => taken ∈ issued

/-- How far back later operations must not reach. -/
def Operation.floor (floor : Option Nat) : Operation → Option Nat
  | .clear => none
  | _ => floor

namespace Store

/-- A run undoes and merges only the freezes of its own. -/
def Confined (floor : Option Nat) (issued : List Checkpoint) : Store → List Operation → Prop
  | _, [] => True
  | store, operation :: operations =>
    operation.Confined floor issued store ∧
      Confined (operation.floor floor) (operation.issues store ++ issued)
        (Action.reached (operation.perform store)) operations

/-- The answers that a run of operations gets. -/
def answers : Store → List Operation → List (Except StoreFault Answer)
  | _, [] => []
  | store, operation :: operations =>
    Action.answer (operation.perform store) ::
      answers (Action.reached (operation.perform store)) operations

/-- The answers that a run gets when its checkpoints are replaced by those of the same freezes. -/
def answersVia (issued : List Checkpoint) : Store → List Operation → List (Except StoreFault Answer)
  | _, [] => []
  | store, operation :: operations =>
    Action.answer ((operation.via issued).perform store) ::
      answersVia (operation.issues store ++ issued)
        (Action.reached ((operation.via issued).perform store)) operations

end Store

/-- Two checkpoints of the same freeze on both sides. -/
structure Checkpoint.Matches (footing : Footing) (store store' : Store) (left right : Checkpoint) :
    Prop where
  cases : left.Paired footing right ∨ left.Gone right store store'
  successor : left.successor < store.nextId
  leftId : left.id < store.nextId
  rightId : right.id < store'.nextId

namespace Checkpoint

variable {footing : Footing} {left right left' right' : Store} {taken other : Checkpoint}
  {operation operation' : Operation}

theorem Matches.same (paired : Matches footing left right taken other) :
    taken.successor = other.successor := by
  obtain paired | gone := paired.cases
  · exact paired.successor
  · exact gone.successor

theorem Matches.turn (paired : Matches footing left right taken other)
    (turn : left.Turn operation left') (turn' : right.Turn operation' right') :
    Matches footing left' right' taken other where
  cases := paired.cases.imp (fun still => still) fun gone =>
    ⟨gone.successor, gone.left.turn turn, gone.right.turn turn'⟩
  successor := Nat.lt_of_lt_of_le paired.successor turn.nextId_le
  leftId := Nat.lt_of_lt_of_le paired.leftId turn.nextId_le
  rightId := Nat.lt_of_lt_of_le paired.rightId turn'.nextId_le

/-- Whatever is there after clearing is new. -/
theorem renews_clear {store : Store} {id : Nat} (older : id < store.nextId) :
    Store.Renews 0 (id + 1) store.clear := by
  refine ⟨fun height generation _ found => ?_, Nat.le_succ_of_le older⟩
  cases List.mem_singleton.mp (List.mem_of_getElem? found)
  exact older

theorem Matches.clear (paired : Matches footing left right taken other) (renewed : Footing) :
    Matches renewed left.clear right.clear taken other where
  cases := .inr ⟨paired.same, renews_clear paired.leftId, renews_clear paired.rightId⟩
  successor := Nat.lt_succ_of_lt paired.successor
  leftId := Nat.lt_succ_of_lt paired.leftId
  rightId := Nat.lt_succ_of_lt paired.rightId

/-- The checkpoint of the same freeze is found among those of the other side. -/
theorem matches_via {issued issued' : List Checkpoint}
    (paired : List.Forall₂ (Matches footing left right) issued issued')
    (distinct : issued.Pairwise fun first second => first.successor ≠ second.successor)
    (member : taken ∈ issued) : Matches footing left right taken (taken.via issued') := by
  induction paired with
  | nil => cases member
  | @cons first first' rest rest' head tail inductionHypothesis =>
    unfold via
    rw [List.find?_cons]
    obtain ⟨apart, distinctRest⟩ := List.pairwise_cons.mp distinct
    obtain same | deeper := List.mem_cons.mp member
    · subst same
      rw [beq_iff_eq.mpr head.same.symm]
      exact head
    · have different : (first'.successor == taken.successor) = false := by
        rw [← head.same]
        exact beq_eq_false_iff_ne.mpr (apart taken deeper)
      rw [different]
      exact inductionHypothesis distinctRest deeper

theorem erased_via (issued : List Checkpoint) (checkpoint : Checkpoint) :
    (checkpoint.via issued).erased = checkpoint.erased := by
  unfold via
  cases found : issued.find? fun other => other.successor == checkpoint.successor with
  | none => rfl
  | some other =>
    have same : other.successor = checkpoint.successor := by
      simpa using List.find?_some found
    exact congrArg (Checkpoint.mk 0 0) same

end Checkpoint

/-- Two stores in the middle of a run, with the checkpoints that the run has given on both sides. -/
structure Store.Abreast (floor : Option Nat) (issued issued' : List Checkpoint)
    (left right : Store) : Prop where
  beside : ∃ footing count, Beside footing count left right ∧
    (floor = some footing.leftDepth ∨ footing.leftDepth = 0 ∧ footing.rightDepth = 0) ∧
    List.Forall₂ (Checkpoint.Matches footing left right) issued issued'
  distinct : issued.Pairwise fun first second => first.successor ≠ second.successor
  orderedLeft : left.Ordered
  orderedRight : right.Ordered

namespace Store

variable {floor : Option Nat} {issued issued' : List Checkpoint} {left right : Store}

/-- An operation that gives no checkpoint and keeps the footing. -/
theorem abreast_of_turn {footing : Footing} {count : Nat} {left' right' : Store}
    {operation operation' : Operation}
    (paired : List.Forall₂ (Checkpoint.Matches footing left right) issued issued')
    (distinct : issued.Pairwise fun first second => first.successor ≠ second.successor)
    (orderedLeft : left.Ordered) (orderedRight : right.Ordered)
    (grounded : floor = some footing.leftDepth ∨ footing.leftDepth = 0 ∧ footing.rightDepth = 0)
    (turn : left.Turn operation left') (turn' : right.Turn operation' right')
    (beside : Beside footing count left' right') : Abreast floor issued issued' left' right' where
  beside := ⟨footing, count, beside, grounded, paired.imp fun _ _ pair => pair.turn turn turn'⟩
  distinct := distinct
  orderedLeft := orderedLeft.turn turn
  orderedRight := orderedRight.turn turn'

theorem abreast_freeze {footing : Footing} {count : Nat} (beside : Beside footing count left right)
    (paired : List.Forall₂ (Checkpoint.Matches footing left right) issued issued')
    (distinct : issued.Pairwise fun first second => first.successor ≠ second.successor)
    (orderedLeft : left.Ordered) (orderedRight : right.Ordered)
    (grounded : floor = some footing.leftDepth ∨ footing.leftDepth = 0 ∧ footing.rightDepth = 0)
    (resume : ResumePoint) :
    Abreast floor ((left.freeze resume).1 :: issued) ((right.freeze resume).1 :: issued')
      (left.freeze resume).2 (right.freeze resume).2 := by
  have turn := (Operation.freeze resume).turn beside.alike.chain.wipedLeft
  have turn' := (Operation.freeze resume).turn beside.alike.chain.wipedRight
  obtain ⟨frozen, pair⟩ := beside.freeze resume
  have newest : left.chain.tail.id < left.nextId :=
    orderedLeft.bounded _ (List.mem_of_getElem? left.chain.lineage_tail)
  have newest' : right.chain.tail.id < right.nextId :=
    orderedRight.bounded _ (List.mem_of_getElem? right.chain.lineage_tail)
  refine ⟨⟨footing, count + 1, frozen, grounded, .cons ⟨.inl pair, Nat.lt_succ_self _,
    Nat.lt_succ_of_lt newest, Nat.lt_succ_of_lt newest'⟩ ?_⟩, ?_, orderedLeft.turn turn,
    orderedRight.turn turn'⟩
  · exact paired.imp fun _ _ pair => pair.turn turn turn'
  · refine List.pairwise_cons.mpr ⟨fun taken member => ?_, distinct⟩
    exact (Nat.ne_of_lt (Checkpoint.matches_via paired distinct member).successor).symm

theorem Abreast.step (abreast : Abreast floor issued issued' left right) {operation : Operation}
    (confined : operation.Confined floor issued left) :
    (Action.answer (operation.perform left)).map Answer.erased =
        (Action.answer ((operation.via issued').perform right)).map Answer.erased ∧
      Abreast (operation.floor floor) (operation.issues left ++ issued)
        (operation.issues right ++ issued') (Action.reached (operation.perform left))
        (Action.reached ((operation.via issued').perform right)) := by
  obtain ⟨⟨footing, count, beside, grounded, paired⟩, distinct, orderedLeft, orderedRight⟩ :=
    abreast
  have turn := operation.turn beside.alike.chain.wipedLeft
  have turn' := (operation.via issued').turn beside.alike.chain.wipedRight
  have continues {height : Nat} := @abreast_of_turn floor issued issued' left right footing height
    _ _ _ _ paired distinct orderedLeft orderedRight grounded turn turn'
  cases operation with
  | access made =>
    obtain ⟨same, reached⟩ :=
      beside.access (made.lockstep_perform confined (Checkpoint.erased_via issued'))
    exact ⟨same, continues reached⟩
  | freeze resume =>
    refine ⟨?_, abreast_freeze beside paired distinct orderedLeft orderedRight grounded resume⟩
    exact congrArg (fun id => Except.ok (Answer.checkpoint ⟨0, 0, id⟩)) beside.alike.nextId
  | rollback =>
    cases count with
    | zero =>
      obtain ⟨answered, still⟩ := beside.rollback_foot grounded confined
      exact ⟨congrArg (fun resume => Except.ok (Answer.resumed resume)) answered, continues still⟩
    | succ count =>
      obtain ⟨answered, below⟩ := beside.rollback
      exact ⟨congrArg (fun resume => Except.ok (Answer.resumed resume)) answered, continues below⟩
  | restore taken =>
    have agree : Action.Agree (fun first second => ∃ height, Beside footing height first second) id
        (Store.restore taken left) (Store.restore (taken.via issued') right) := by
      obtain pair | gone := (Checkpoint.matches_via paired distinct confined).cases
      · exact beside.restore pair
      · exact restore_of_gone gone ⟨count, beside⟩
    obtain ⟨same, height, reached⟩ := agree.answered fun resume => .resumed (some resume)
    exact ⟨same, continues reached⟩
  | collapse taken =>
    have agree : Action.Agree (fun first second => ∃ height, Beside footing height first second) id
        (Store.collapse taken left) (Store.collapse (taken.via issued') right) := by
      obtain pair | gone := (Checkpoint.matches_via paired distinct confined).cases
      · exact beside.collapse pair
      · exact collapse_of_gone gone ⟨count, beside⟩
    obtain ⟨same, height, reached⟩ := agree.answered fun _ => .done
    exact ⟨same, continues reached⟩
  | clear =>
    refine ⟨rfl, ⟨_, 0, beside.clear, .inr ⟨rfl, rfl⟩, ?_⟩, distinct, orderedLeft.turn turn,
      orderedRight.turn turn'⟩
    exact paired.imp fun _ _ pair => pair.clear _

/-- Over a whole run both sides answer the same. -/
theorem Abreast.answers (abreast : Abreast floor issued issued' left right)
    {operations : List Operation} (confined : left.Confined floor issued operations) :
    (left.answers operations).map (Except.map Answer.erased) =
      (right.answersVia issued' operations).map (Except.map Answer.erased) := by
  induction operations generalizing floor issued issued' left right with
  | nil => rfl
  | cons operation operations inductionHypothesis =>
    obtain ⟨same, still⟩ := abreast.step confined.1
    exact congrArg₂ List.cons same (inductionHypothesis still confined.2)

/-- A store and the same store after a collapse start side by side. -/
theorem abreast_collapse {store merged : Store} {checkpoint : Checkpoint}
    (wiped : store.chain.pools.Wiped) (layered : Generation.Layered store.chain.generations)
    (ordered : store.Ordered) (collapsed : collapse checkpoint store = .ok () merged) :
    Abreast (some store.chain.older.length) [] [] store merged := by
  have turn := (Operation.collapse checkpoint).turn wiped
  have perform : Action.reached ((Operation.collapse checkpoint).perform store) = merged := by
    change Action.reached ((collapse checkpoint >>= fun _ => pure Answer.done) store) = merged
    rw [Action.bind_of_ok collapsed]
    rfl
  rw [perform] at turn
  obtain ⟨failed, -⟩ | ⟨-, other, succeeded, chain, nextId, settings, sweeping, requested⟩ :=
    store.collapse_cases checkpoint
  · rw [failed] at collapsed
    cases collapsed
  · cases succeeded.symm.trans collapsed
    obtain ⟨seen, still⟩ := Chain.mergeTo_spec layered checkpoint.depth
    have wiped' := Chain.wiped_mergeTo wiped checkpoint.depth
    rw [← chain] at seen still wiped'
    have same : store.chain.snapshot.erased = merged.chain.snapshot.erased := by rw [seen]
    refine ⟨⟨⟨store.chain.tail.id, store.chain.older.length, merged.chain.tail.id,
      merged.chain.older.length⟩, 0, ?_, .inl rfl, .nil⟩, .nil, ordered, ordered.turn turn⟩
    exact ⟨⟨⟨same, wiped, wiped'⟩, nextId.symm, settings.symm, sweeping.symm, requested.symm⟩,
      .foot rfl rfl rfl rfl same, layered, still⟩

/-- Whatever can be asked of a store depends only on what is seen. -/
theorem seen_of_collapse {store merged : Store} {checkpoint : Checkpoint}
    (layered : Generation.Layered store.chain.generations)
    (collapsed : collapse checkpoint store = .ok () merged) :
    merged.chain.snapshot = store.chain.snapshot ∧
      ∃ named, store.chain.lineage[checkpoint.depth]? = some named ∧
        merged.chain.tail.id = named.id ∧ merged.chain.tail.resume = named.resume ∧
        merged.chain.older.reverse = store.chain.lineage.take checkpoint.depth := by
  obtain ⟨failed, -⟩ | ⟨held, other, succeeded, chain, -⟩ := store.collapse_cases checkpoint
  · rw [failed] at collapsed
    cases collapsed
  · cases succeeded.symm.trans collapsed
    rw [chain]
    exact ⟨(Chain.mergeTo_spec layered checkpoint.depth).1,
      Chain.lineage_mergeTo (depth_le_of_holds held)⟩

end Store

/-- Collapsing cannot be noticed, now or later. Right after it, everything that can be asked of the
store is as before, the generations below the one that the checkpoint names are untouched, and that
one keeps its id and its resume point. And whatever is done from then on, as long as it undoes and
merges only its own freezes, gets the answers that it would have got without the collapse. -/
theorem collapse_transparent (settings : StoreSettings) (before : List Operation)
    (checkpoint : Checkpoint) (merged : Store)
    (collapsed : Store.collapse checkpoint ((Store.empty settings).after before) = .ok () merged) :
    let store := (Store.empty settings).after before
    (∀ position, merged.peek position = store.peek position ∧
      merged.count position = store.count position ∧
      merged.isFreed position = store.isFreed position) ∧
    (∀ name, merged.lookup name = store.lookup name ∧
      merged.contains name = store.contains name) ∧
    merged.bindings = store.bindings ∧
    merged.chain.counters = store.chain.counters ∧
    (∃ named, store.chain.lineage[checkpoint.depth]? = some named ∧
      merged.chain.lineage = store.chain.lineage.take checkpoint.depth ++ [merged.chain.tail] ∧
      merged.chain.tail.id = named.id ∧ merged.chain.tail.resume = named.resume) ∧
    ∀ later, store.Confined (some store.chain.older.length) [] later →
      (merged.answersVia [] later).map (Except.map Answer.erased) =
        (store.answers later).map (Except.map Answer.erased) := by
  have wiped := Store.wiped_after (Store.wiped_empty settings) before
  have layered :=
    Store.layered_after (Store.wiped_empty settings) (Store.layered_empty settings) before
  have ordered :=
    Store.ordered_after (Store.wiped_empty settings) (Store.ordered_empty settings) before
  generalize (Store.empty settings).after before = store at collapsed wiped layered ordered
  obtain ⟨seen, named, found, id, resume, below⟩ := Store.seen_of_collapse layered collapsed
  have cell (position : Nat) : merged.chain.cell position = store.chain.cell position := by
    rw [Chain.cell_eq_snapshot, Chain.cell_eq_snapshot, seen]
  have counters : merged.chain.counters = store.chain.counters :=
    congrArg Snapshot.counters seen
  have get? (name : String) : merged.chain.get? name = store.chain.get? name := by
    rw [Chain.get?_eq_snapshot, Chain.get?_eq_snapshot, seen, counters]
  refine ⟨fun position => ⟨?_, ?_, ?_⟩, fun name => ⟨?_, ?_⟩, ?_, counters,
    ⟨named, found, ?_, id, resume⟩, fun later confined => ?_⟩
  · rw [Store.peek, Store.peek, cell]
  · rw [Store.count, Store.count, cell]
  · rw [Store.isFreed, Store.isFreed, cell]
  · rw [Store.lookup, Store.lookup, get?]
  · rw [Store.contains, Store.contains, get?]
  · rw [Store.bindings, Store.bindings, Chain.bindings_eq_snapshot,
      Chain.bindings_eq_snapshot, seen]
  · rw [Chain.lineage_eq, below]
  · exact ((Store.abreast_collapse wiped layered ordered collapsed).answers confined).symm

/-- Two generations that bind names are merged away; then a name is shadowed in a new generation,
the freeze is undone, and the bindings are read. -/
theorem collapse_transparent_two_generations :
    let resume : ResumePoint := ⟨0, Signal.enter, 3⟩
    let start := Store.empty {}
    let bind (name : String) := Operation.access (.push name (.cursor 3))
    let store := start.after [.freeze resume, bind "outer", .freeze resume, bind "inner"]
    let later := [.freeze resume, bind "outer", .restore (store.freeze resume).1, .access .bindings]
    ∃ merged, Store.collapse (start.freeze resume).1 store = .ok () merged ∧
      store.Confined (some store.chain.older.length) [] later ∧
      (merged.answersVia [] later).map (Except.map Answer.erased) =
        (store.answers later).map (Except.map Answer.erased) := by
  intro resume start bind store later
  have survives : (start.freeze resume).2.Survives (start.freeze resume).1.depth
      [bind "outer", .freeze resume, bind "inner"] := ⟨not_false, not_false, not_false, trivial⟩
  have built : store = (start.freeze resume).2.after [bind "outer", .freeze resume, bind "inner"] :=
    Store.after_cons ..
  obtain ⟨merged, collapsed⟩ : ∃ merged, Store.collapse (start.freeze resume).1 store =
      .ok () merged := by
    rw [built]
    exact Store.collapse_of_survives (Store.wiped_empty {}) survives
  have confined : store.Confined (some store.chain.older.length) [] later :=
    ⟨trivial, trivial, List.mem_singleton_self _, trivial, trivial⟩
  have transparent := collapse_transparent {} _ _ merged collapsed
  exact ⟨merged, collapsed, confined, transparent.2.2.2.2.2 later confined⟩

end Rewind
