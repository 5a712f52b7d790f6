/-
This file proves that wrong links do no harm to the store. In a program whose nodes are linked in
any way, a node may be signalled as done without having started, find the binding of another node or
miss its own, and collapse to a checkpoint of a construct around it. Still every binding has the
shape that the node expects that looks for it, so a run ends in one of the ways that it may end, or
a node misses a binding, a checkpoint or a step. Nothing else can go wrong in fewer than 2^32 ticks.

Every move of a node is shown to end well from a store that is shaped; what it leaves is shaped
again.
-/

import Mathlib
import Rewind.Proofs.Matcher.Extraction
import Rewind.Proofs.Matcher.Pausing
import Rewind.Proofs.Matcher.Shapes

namespace Rewind

/-! ### Excuses -/

/-- What can go wrong in a run because of how nodes are linked. -/
inductive Failure.FromLinks : Failure → Prop
  | unknownNode (node : NodeId) : FromLinks (.unknownNode node)
  | unbound {name : String}
    (hidden : name ∈ [Matcher.openName, Matcher.repetitionName, Matcher.atomicName,
      Matcher.lookaheadName]) : FromLinks (.store (.unboundName name))
  | stale : FromLinks (.store .staleCheckpoint)
  | unexpectedSignal (node : NodeId) (signal : Signal) :
    FromLinks (.confused node (.unexpectedSignal signal))

/-- Why a run may be aborted that has taken some ticks. Only after very many a number may be too
large. -/
inductive Abort.Excused (ticks : Nat) : Abort → Prop
  | failed {failure : Failure} (links : failure.FromLinks) : Excused ticks (.failed failure)
  | overflow {defect : Defect} (many : 0x100000000 ≤ ticks + 1) : Excused ticks (.defect defect)

namespace Matcher

open Rewind.Action

/-- A matcher between two ticks: its store is shaped. There are at most as many iterations and,
apart from the first few, as many cells as there have been ticks. -/
def Sound (matcher : Matcher) : Prop := matcher.store.Shaped matcher.ticks (matcher.ticks + 3)

/-- A matcher in the middle of a tick, which counts at most one iteration and stores at most one
payload. -/
structure Midway (ticks : Nat) (matcher : Matcher) : Prop where
  now : matcher.ticks = ticks
  shaped : matcher.store.Shaped (ticks + 1) (ticks + 4)

/-- A matcher in the middle of a tick, and what its store holds and binds. -/
structure MidwayAs (ticks size : Nat) (rank : Nat → Nat) (entries : Multiset Entry)
    (bindings : Bindings) (matcher : Matcher) : Prop where
  now : matcher.ticks = ticks
  shown : matcher.store.ShapedAs (ticks + 1) size rank entries bindings

/-- An outcome in the middle of a tick: a success as it is claimed, or an abort with an excuse that
leaves a store to be cleared. -/
inductive Ends {α : Type} (ticks : Nat) (claim : α → Matcher → Prop) :
    EStateM.Result Abort Matcher α → Prop
  | ok {value : α} {after : Matcher} (holds : claim value after) :
    Ends ticks claim (.ok value after)
  | error {abort : Abort} {after : Matcher} (now : after.ticks = ticks)
    (excused : abort.Excused ticks) (clearable : after.store.Clearable) :
    Ends ticks claim (.error abort after)

/-- An outcome in the middle of a tick, after which the tick goes on. -/
abbrev Steps {α : Type} (ticks : Nat) (result : EStateM.Result Abort Matcher α) : Prop :=
  Ends ticks (fun _ after => after.Midway ticks) result

variable {α β : Type} {ticks size : Nat} {rank : Nat → Nat} {entries : Multiset Entry}
  {bindings : Bindings} {matcher : Matcher}

theorem Ends.bind {action : MatcherM α} {next : α → MatcherM β} {claim : α → Matcher → Prop}
    {goal : β → Matcher → Prop} (first : Ends ticks claim (action matcher))
    (rest : ∀ value after, claim value after → Ends ticks goal (next value after)) :
    Ends ticks goal ((action >>= next) matcher) := by
  generalize ran : action matcher = result at first
  cases first with
  | ok holds =>
    rw [bind_of_ok ran]
    exact rest _ _ holds
  | error now excused clearable =>
    rw [bind_of_error ran]
    exact .error now excused clearable

theorem onStore_of_error {action : StoreM α} {fault : StoreFault} {store : Store}
    (failed : action matcher.store = .error fault store) :
    onStore action matcher = .error (.ofFault fault) { matcher with store := store } := by
  unfold onStore onPart
  rw [failed]

/-! ### Moves -/

theorem Sound.midwayAs (sound : matcher.Sound) : ∃ rank entries bindings,
    matcher.MidwayAs matcher.ticks (matcher.ticks + 3) rank entries bindings := by
  obtain ⟨rank, entries, bindings, shown⟩ := sound.shows
  exact ⟨rank, entries, bindings, rfl, shown.mono (Nat.le_succ _)⟩

theorem Sound.midway (sound : matcher.Sound) : matcher.Midway matcher.ticks :=
  ⟨rfl, sound.mono (Nat.le_succ _) (Nat.le_succ _)⟩

theorem midwayAs_withStore {store : Store}
    (shown : store.ShapedAs (matcher.ticks + 1) size rank entries bindings) :
    MidwayAs matcher.ticks size rank entries bindings { matcher with store := store } :=
  ⟨rfl, shown⟩

theorem MidwayAs.midway (as : matcher.MidwayAs ticks size rank entries bindings)
    (small : size ≤ ticks + 4) : matcher.Midway ticks :=
  ⟨as.now, as.shown.whole.mono (le_refl _) small⟩

/-- Only the store and the number of ticks matter. -/
theorem Midway.alike {after : Matcher} (midway : matcher.Midway ticks)
    (store : after.store = matcher.store) (now : after.ticks = matcher.ticks) :
    after.Midway ticks :=
  ⟨now.trans midway.now, store.symm ▸ midway.shaped⟩

theorem Midway.finish (midway : matcher.Midway ticks) (id : NodeId) :
    (matcher.finish id).Midway ticks := by
  unfold Matcher.finish
  split <;> exact midway.alike rfl rfl

theorem Midway.leaveChoice (midway : matcher.Midway ticks) (id : NodeId) (signal : Signal) :
    (matcher.leaveChoice id signal).Midway ticks := by
  obtain ⟨rank, entries, bindings, shown⟩ := midway.shaped.shows
  exact ⟨midway.now, (shown.freeze _).whole⟩

theorem MidwayAs.leaveChoice (as : matcher.MidwayAs ticks size rank entries bindings) (id : NodeId)
    (signal : Signal) :
    (matcher.leaveChoice id signal).MidwayAs ticks size rank entries bindings :=
  ⟨as.now, as.shown.freeze _⟩

theorem Midway.error {failure : Failure} (midway : matcher.Midway ticks)
    (links : failure.FromLinks) :
    Steps ticks (.error (.failed failure) matcher : EStateM.Result Abort Matcher α) :=
  .error midway.now (.failed links) midway.shaped.clearable

/-- Whatever is bound to a hidden name is taken from the stack. -/
theorem Midway.remove (midway : matcher.Midway ticks) {name : String}
    (hidden : name ∈ [openName, repetitionName, atomicName, lookaheadName]) :
    Steps ticks (onStore (Store.remove name) matcher) := by
  obtain ⟨rank, entries, bindings, shown⟩ := midway.shaped.shows
  have different : name ≠ globalName := fun same => absurd (same ▸ hidden) (by decide)
  obtain ⟨store, ran, still⟩ | ⟨-, store, ran, clearable⟩ := shown.remove_cases different
  · rw [World.onStore_of_ok ran]
    exact .ok ⟨midway.now, still⟩
  · rw [onStore_of_error ran]
    exact .error midway.now (.failed (.unbound hidden)) clearable

theorem Midway.collapse (midway : matcher.Midway ticks) (checkpoint : Checkpoint) :
    Steps ticks (onStore (Store.collapse checkpoint) matcher) := by
  obtain ⟨store, ran, still⟩ | ran := midway.shaped.collapse_cases checkpoint
  · rw [World.onStore_of_ok ran]
    exact .ok ⟨midway.now, still⟩
  · rw [onStore_of_error ran]
    exact midway.error .stale

/-! ### Nodes that store nothing -/

theorem steps_finishIf (midway : matcher.Midway ticks) (passed : Bool)
    (id : NodeId) (cursor : Nat) :
    Steps ticks (finishIf passed id cursor matcher) := by
  have moved : (matcher.moveTo cursor).Midway ticks := midway.alike rfl rfl
  cases passed with
  | true => exact .ok (moved.finish id)
  | false => exact .ok (midway.alike rfl rfl)

theorem steps_stepSequence (midway : matcher.Midway ticks) (id : NodeId) (children : List NodeId)
    (signal : Signal) : Steps ticks (stepSequence id children signal matcher) := by
  refine .ok ?_
  dsimp only
  split
  · exact midway.alike rfl rfl
  · exact midway.finish id

theorem steps_tryBranch (midway : matcher.Midway ticks) (id : NodeId) (children : List NodeId)
    (branch : Nat) : Steps ticks (tryBranch id children branch matcher) := by
  refine .ok ?_
  dsimp only
  split
  · exact midway.alike rfl rfl
  · split
    · exact (midway.leaveChoice id _).alike rfl rfl
    · exact midway.alike rfl rfl

theorem steps_stepAlternation (midway : matcher.Midway ticks) (id : NodeId) (children : List NodeId)
    (signal : Signal) : Steps ticks (stepAlternation id children signal matcher) := by
  unfold stepAlternation
  split
  · exact steps_tryBranch midway id children 0
  · exact .ok (midway.finish id)
  · exact steps_tryBranch midway id children _

/-! ### Frames -/

theorem ofStore_ok (value : α) (matcher : Matcher) :
    ofStore (.ok value) matcher = .ok value matcher :=
  rfl

/-- The frame under a name has the shape that is bound to that name. -/
theorem readFrame_cases {limit : Nat}
    (shown : matcher.store.ShapedAs limit size rank entries bindings)
    {name : String} {property : Payload → Prop}
    (shapes : ∀ value, Entry.Suits limit entries name value →
      ∃ position, value = .ref position ∧ Entry.At entries property position)
    (list : ∀ payload, property payload → ∃ items, payload = .list items) (id : NodeId) :
    (∃ entry ∈ entries, property entry.payload ∧ ∃ items, entry.payload = .list items ∧ ∃ store,
        readFrame id name matcher = .ok (entry.position, items) { matcher with store := store } ∧
        store.ShapedAs limit size rank entries bindings) ∨
      readFrame id name matcher = .error (.failed (.store (.unboundName name))) matcher := by
  unfold readFrame
  rw [bind_of_ok (rfl : (get : MatcherM Matcher) matcher = .ok matcher matcher)]
  obtain ⟨value, looked, -, suits⟩ | ⟨missing, -⟩ := shown.lookup_cases name
  · obtain ⟨position, rfl, entry, member, rfl, holds⟩ := shapes value suits
    obtain ⟨items, isList⟩ := list _ holds
    obtain ⟨store, reading, still⟩ := shown.deref member
    refine .inl ⟨entry, member, holds, items, isList, store, ?_, still⟩
    rw [looked, bind_of_ok (ofStore_ok _ matcher)]
    simp only [Value.reference?]
    rw [bind_of_ok (World.onStore_of_ok reading), isList]
    rfl
  · rw [missing]
    exact .inr rfl

/-- An item of the frame of a repetition is set. -/
theorem MidwayAs.updateFrame (as : matcher.MidwayAs ticks size rank entries bindings) {frame : Nat}
    (isFrame : Entry.At entries (Payload.IsRepetition (ticks + 1)) frame)
    (index : Nat) (value : Value)
    (inside : index < 2)
    (sets : ∀ (count start : Nat), count ≤ ticks + 1 → ∃ done stop : Nat, done ≤ ticks + 1 ∧
      [Value.int count, .cursor start].set index value = [.int done, .cursor stop]) :
    ∃ after changed, Matcher.updateFrame frame index value matcher = .ok () after ∧
      after.MidwayAs ticks size rank changed bindings ∧ after.subject = matcher.subject ∧
      Entry.At changed (Payload.IsRepetition (ticks + 1)) frame := by
  obtain ⟨entry, member, rfl, count, start, few, isList⟩ := id isFrame
  obtain ⟨done, stop, bounded, set⟩ := sets count start few
  have edited : setItem index value entry.payload = (true, .list [.int done, .cursor stop]) := by
    rw [isList, setItem, set]
    simp [inside]
  obtain ⟨store, changed, ran, shown, carries, positions⟩ :=
    as.shown.update member (setItem index value) []
      (fun position => by rw [edited, isList]; rfl) (List.forall_mem_nil _)
      (by rw [edited, isList]; exact .repetition bounded)
      (fun record impossible => by rw [edited] at impossible; cases impossible)
  rw [edited] at ran
  refine ⟨{ matcher with store := store }, changed, ?_, ⟨as.now, shown⟩, rfl, ?_⟩
  · unfold Matcher.updateFrame
    rw [bind_of_ok (World.onStore_of_ok ran)]
    rfl
  · exact carries.stays (fun _ _ => Payload.Becomes.isRepetition) isFrame
      (positions.symm ▸ isFrame.mem)

/-! ### Repetitions -/

theorem steps_iterate (as : matcher.MidwayAs ticks size rank entries bindings)
    (small : size ≤ ticks + 4) {frame : Nat}
    (isFrame : Entry.At entries (Payload.IsRepetition (ticks + 1)) frame) (child : NodeId) :
    Steps ticks (iterate frame child matcher) := by
  obtain ⟨after, changed, ran, still, -⟩ := as.updateFrame isFrame 1
    (.cursor matcher.subject.cursor) Nat.one_lt_two
    fun count start few => ⟨count, _, few, rfl⟩
  change Steps ticks ((Matcher.updateFrame frame 1 _ >>= fun _ => _) matcher)
  rw [bind_of_ok ran]
  exact .ok ((still.midway small).alike rfl rfl)

theorem steps_leaveRepetition (midway : matcher.Midway ticks) (id : NodeId) :
    Steps ticks (leaveRepetition id matcher) :=
  (midway.remove (by decide)).bind fun _ _ removed => .ok (removed.finish id)

theorem steps_decideRepetition (as : matcher.MidwayAs ticks size rank entries bindings)
    (small : size ≤ ticks + 4) {frame : Nat}
    (isFrame : Entry.At entries (Payload.IsRepetition (ticks + 1)) frame) (id child : NodeId)
    (min : Nat) (max : Option Nat) (lazily : Bool) (count : Nat) :
    Steps ticks (decideRepetition id child min max lazily frame count matcher) := by
  unfold decideRepetition
  split
  · exact steps_iterate as small isFrame child
  · split
    · exact steps_leaveRepetition (as.midway small) id
    · split
      · exact steps_leaveRepetition ((as.midway small).leaveChoice id _) id
      · exact steps_iterate (as.leaveChoice id _) small isFrame child

/-- The frame of the innermost repetition. It has counted no more iterations than there were ticks
before. -/
theorem repetitionFrame_cases {limit : Nat}
    (shown : matcher.store.ShapedAs limit size rank entries bindings) (id : NodeId) :
    (∃ frame count start store,
        repetitionFrame id matcher = .ok (frame, count % 0x100000000, start)
          { matcher with store := store } ∧
        store.ShapedAs limit size rank entries bindings ∧ count ≤ limit ∧
        Entry.At entries (Payload.IsRepetition limit) frame) ∨
      repetitionFrame id matcher =
        .error (.failed (.store (.unboundName repetitionName))) matcher := by
  obtain ⟨entry, member, holds, items, isList, store, ran, still⟩ | failed :=
    readFrame_cases shown (fun _ => Entry.Suits.isRepetition)
      (fun _ ⟨_, _, _, same⟩ => ⟨_, same⟩) id
  · have isFrame := holds
    obtain ⟨count, start, few, same⟩ := isFrame
    rw [isList] at same
    cases same
    refine .inl ⟨entry.position, count, start, store, ?_, still, few, entry, member, rfl, holds⟩
    unfold repetitionFrame
    rw [bind_of_ok ran]
    rfl
  · unfold repetitionFrame
    rw [bind_of_error failed]
    exact .inr rfl

theorem steps_stepRepetition (sound : matcher.Sound) (id child : NodeId) (min : Nat)
    (max : Option Nat) (lazily : Bool) (signal : Signal) :
    Steps matcher.ticks (stepRepetition id child min max lazily signal matcher) := by
  obtain ⟨rank, entries, bindings, shown⟩ := sound.shows
  unfold stepRepetition
  split
  · obtain ⟨frame, stored, higher, allocating, shownStored, -⟩ :=
      (shown.mono (Nat.le_succ _)).alloc (.list [.int 0, .cursor matcher.subject.cursor])
        (fun _ impossible => nomatch impossible) (fun _ impossible => nomatch impossible)
    have isFrame : Payload.IsRepetition (matcher.ticks + 1)
        (.list [.int 0, .cursor matcher.subject.cursor]) := ⟨0, _, Nat.zero_le _, rfl⟩
    obtain ⟨bound, pushing, shownBound⟩ := shownStored.pushRef (Entry.at_cons isFrame).mem
      (.repetition (Entry.at_cons isFrame))
    rw [bind_of_ok (rfl : (get : MatcherM Matcher) matcher = .ok matcher matcher),
      bind_of_ok (World.onStore_of_ok allocating), bind_of_ok (World.onStore_of_ok pushing)]
    exact steps_decideRepetition (midwayAs_withStore shownBound) (le_refl _)
      ((Entry.at_cons isFrame).bump _) id child min max lazily 0
  · obtain ⟨frame, count, start, store, ran, still, few, isFrame⟩ | failed :=
      repetitionFrame_cases shown id
    · rw [bind_of_ok ran]
      dsimp only
      have reduced := Nat.mod_le count 0x100000000
      split
      · have as : { matcher with store := store }.MidwayAs matcher.ticks _ rank entries bindings :=
          midwayAs_withStore (still.mono (Nat.le_succ _))
        have counted : Entry.At entries (Payload.IsRepetition (matcher.ticks + 1)) frame :=
          isFrame.imp fun _ repetition => repetition.mono (Nat.le_succ _)
        obtain ⟨after, changed, updating, updated, -, isFrameStill⟩ := as.updateFrame counted 0
          (.int ((count % 0x100000000 + 1 : Nat) : Int)) Nat.two_pos
          fun _ stop _ => ⟨count % 0x100000000 + 1, stop, by omega, rfl⟩
        rw [bind_of_ok updating,
          bind_of_ok (rfl : (get : MatcherM Matcher) after = .ok after after)]
        split
        · exact steps_leaveRepetition (updated.midway (Nat.le_succ _)) id
        · exact steps_decideRepetition updated (Nat.le_succ _) isFrameStill id
            child min max lazily _
      · exact .error rfl (.overflow (by omega)) still.whole.clearable
    · rw [bind_of_error failed]
      exact sound.midway.error (.unbound (by decide))
  · exact steps_leaveRepetition sound.midway id
  · obtain ⟨frame, count, start, store, ran, still, -, isFrame⟩ | failed :=
      repetitionFrame_cases (shown.mono (Nat.le_succ _)) id
    · rw [bind_of_ok ran]
      dsimp only
      exact steps_iterate (midwayAs_withStore still) (Nat.le_succ _) isFrame child
    · rw [bind_of_error failed]
      exact sound.midway.error (.unbound (by decide))
  · exact sound.midway.error (.unexpectedSignal id _)

/-! ### Atomic groups and lookaheads -/

theorem MidwayAs.freeze (as : matcher.MidwayAs ticks size rank entries bindings) (id : NodeId)
    (signal : Signal) : (matcher.freeze id signal).2.MidwayAs ticks size rank entries bindings :=
  ⟨as.now, as.shown.freeze _⟩

theorem steps_stepAtomic (sound : matcher.Sound) (id child : NodeId) (signal : Signal) :
    Steps matcher.ticks (stepAtomic id child signal matcher) := by
  obtain ⟨rank, entries, bindings, as⟩ := sound.midwayAs
  unfold stepAtomic
  split
  · have frozen := as.freeze id .childFailed
    generalize freezing : matcher.freeze id .childFailed = outcome at frozen
    obtain ⟨checkpoint, after⟩ := outcome
    obtain ⟨bound, pushing, shown⟩ := frozen.shown.push rfl (.atomic checkpoint)
    rw [bind_of_ok (World.modifyGet_freeze freezing), bind_of_ok (World.onStore_of_ok pushing)]
    exact .ok ⟨frozen.now, shown.whole.mono (le_refl _) (Nat.le_succ _)⟩
  · rw [bind_of_ok (rfl : (get : MatcherM Matcher) matcher = .ok matcher matcher)]
    obtain ⟨value, looked, -, suits⟩ | ⟨missing, -⟩ := as.shown.lookup_cases atomicName
    · obtain ⟨checkpoint, rfl⟩ := suits.isCheckpoint
      rw [looked, bind_of_ok (ofStore_ok _ matcher)]
      refine (sound.midway.remove (by decide)).bind fun _ _ removed => ?_
      exact (removed.collapse checkpoint).bind fun _ _ collapsed => .ok (collapsed.finish id)
    · rw [missing]
      exact sound.midway.error (.unbound (by decide))
  · exact .ok (sound.midway.alike rfl rfl)
  · exact sound.midway.error (.unexpectedSignal id _)

theorem steps_stepLookahead (sound : matcher.Sound) (id child : NodeId) (negative : Bool)
    (signal : Signal) : Steps matcher.ticks (stepLookahead id child negative signal matcher) := by
  obtain ⟨rank, entries, bindings, as⟩ := sound.midwayAs
  unfold stepLookahead
  split
  · rw [bind_of_ok (rfl : (get : MatcherM Matcher) matcher = .ok matcher matcher)]
    have frozen := as.freeze id .childFailed
    generalize freezing : matcher.freeze id .childFailed = outcome at frozen
    obtain ⟨checkpoint, after⟩ := outcome
    obtain ⟨frame, stored, higher, allocating, shownStored, -⟩ := frozen.shown.alloc
      (.list [.checkpoint checkpoint, .cursor matcher.subject.cursor])
      (fun _ impossible => nomatch impossible) (fun _ impossible => nomatch impossible)
    have isFrame : Payload.IsLookahead
        (.list [.checkpoint checkpoint, .cursor matcher.subject.cursor]) := ⟨checkpoint, _, rfl⟩
    obtain ⟨bound, pushing, shown⟩ := shownStored.pushRef (Entry.at_cons isFrame).mem
      (.lookahead (Entry.at_cons isFrame))
    rw [bind_of_ok (World.modifyGet_freeze freezing), bind_of_ok (World.onStore_of_ok allocating),
      bind_of_ok (World.onStore_of_ok pushing)]
    exact .ok ⟨frozen.now, shown.whole⟩
  · obtain ⟨entry, -, ⟨checkpoint, start, isFrame⟩, items, isList, store, ran, still⟩ | failed :=
      readFrame_cases as.shown (fun _ => Entry.Suits.isLookahead)
        (fun _ ⟨_, _, same⟩ => ⟨_, same⟩) id
    · rw [bind_of_ok ran]
      rw [isFrame] at isList
      cases isList
      have midway : Midway matcher.ticks { matcher with store := store } :=
        ⟨rfl, still.whole.mono (le_refl _) (Nat.le_succ _)⟩
      refine (midway.remove (by decide)).bind fun _ _ removed => ?_
      refine (removed.collapse checkpoint).bind fun _ reached collapsed => .ok ?_
      dsimp only
      split
      · exact collapsed.alike rfl rfl
      · have moved : (reached.moveTo start).Midway matcher.ticks := collapsed.alike rfl rfl
        exact moved.finish id
    · rw [bind_of_error failed]
      exact sound.midway.error (.unbound (by decide))
  · refine .ok ?_
    dsimp only
    split
    · exact sound.midway.finish id
    · exact sound.midway.alike rfl rfl
  · exact sound.midway.error (.unexpectedSignal id _)

/-! ### Captures -/

theorem openCapture_cases {limit : Nat}
    (shown : matcher.store.ShapedAs limit size rank entries bindings) (id : NodeId) :
    (∃ entry ∈ entries, entry.payload.IsCapture ∧
        openCapture id matcher = .ok entry.position matcher) ∨
      openCapture id matcher = .error (.failed (.store (.unboundName openName))) matcher := by
  unfold openCapture
  rw [bind_of_ok (rfl : (get : MatcherM Matcher) matcher = .ok matcher matcher)]
  obtain ⟨value, looked, -, suits⟩ | ⟨missing, -⟩ := shown.lookup_cases openName
  · obtain ⟨position, rfl, entry, member, rfl, isCapture⟩ := suits.isCapture
    rw [looked, bind_of_ok (ofStore_ok _ matcher)]
    exact .inl ⟨entry, member, isCapture, rfl⟩
  · rw [missing]
    exact .inr rfl

/-- A capture is changed. It may get more children, of a higher rank. -/
theorem MidwayAs.updateCapture (as : matcher.MidwayAs ticks size rank entries bindings)
    (edit : Capture → Capture) (extra : List Nat) (position : Nat) {entry : Entry}
    (member : entry ∈ entries) (here : entry.position = position) {record : Capture}
    (isCapture : entry.payload = .capture record) (parent : (edit record).parent = record.parent)
    (children : (edit record).children = record.children ++ extra)
    (higher : ∀ child ∈ extra, Entry.At entries Payload.IsCapture child ∧
      rank position < rank child)
    (id : NodeId) (confusion : Confusion) :
    ∃ after changed,
      Matcher.updateCapture id position confusion edit matcher = .ok () after ∧
      after.MidwayAs ticks size rank changed bindings ∧
      Entry.Carries (ticks + 1) entries changed ∧
      changed.map Entry.position = entries.map Entry.position := by
  subst here
  have edited : editCapture edit entry.payload = (true, .capture (edit record)) := by
    rw [isCapture, editCapture]
  obtain ⟨store, changed, ran, shown, carries, positions⟩ :=
    as.shown.update member (editCapture edit) extra
      (fun position => by
        rw [edited, isCapture]
        change ((edit record).parent.toList ++ (edit record).children).count position =
          (record.parent.toList ++ record.children).count position + extra.count position
        rw [parent, children, ← List.append_assoc, List.count_append])
      (fun child inside => (higher child inside).1.mem)
      (by rw [edited, isCapture]; exact .capture _ _)
      (fun other same child inside => by
        rw [edited] at same
        cases same
        rw [children] at inside
        obtain old | new := List.mem_append.mp inside
        · exact .inl ⟨record, isCapture, old⟩
        · exact .inr (higher child new))
  rw [edited] at ran
  refine ⟨{ matcher with store := store }, changed, ?_, ⟨as.now, shown⟩, carries, positions⟩
  unfold Matcher.updateCapture
  rw [bind_of_ok (World.onStore_of_ok ran)]
  rfl

/-- A capture that refers to the one around it. -/
theorem steps_openCapture (as : matcher.MidwayAs ticks (ticks + 3) rank entries bindings)
    {around : Entry} (member : around ∈ entries) {outer : Capture}
    (isCapture : around.payload = .capture outer) (id : NodeId) (name : String) (start : Nat)
    (child : NodeId) :
    Steps ticks ((do
      let opened ← onStore (Store.alloc
        (.capture { name := name, parent := some around.position, start := start }))
      Matcher.updateCapture id around.position .parentIsNoCapture fun record =>
        { record with children := record.children ++ [opened] }
      onStore (Store.push openName (.ref opened))
      modify fun matcher => matcher.enter child : MatcherM Unit) matcher) := by
  obtain ⟨opened, stored, higher, allocating, shownStored, above⟩ := as.shown.alloc
    (.capture { name := name, parent := some around.position, start := start })
    (fun _ same => by cases same; rfl)
    (fun position inside => by
      cases List.mem_singleton.mp inside
      exact Multiset.mem_map_of_mem _ member)
  have isNew : Payload.IsCapture
      (.capture { name := name, parent := some around.position, start := start }) := ⟨_, rfl⟩
  have asStored : MidwayAs ticks (ticks + 4) higher _ bindings { matcher with store := stored } :=
    ⟨as.now, shownStored⟩
  obtain ⟨listed, changed, updating, asListed, carries, positions⟩ := asStored.updateCapture
    (fun record => { record with children := record.children ++ [opened] }) [opened]
    around.position
    (Multiset.mem_cons_of_mem (Multiset.mem_map_of_mem _ member)) rfl isCapture rfl rfl
    (fun other inside => by
      cases List.mem_singleton.mp inside
      exact ⟨Entry.at_cons isNew, above _ (Multiset.mem_map_of_mem _ member)⟩) id
    .parentIsNoCapture
  have still : Entry.At changed Payload.IsCapture opened :=
    carries.capture (Entry.at_cons isNew) (positions.symm ▸ (Entry.at_cons isNew).mem)
  obtain ⟨bound, pushing, shown⟩ := asListed.shown.pushRef still.mem (.openCapture still)
  rw [bind_of_ok (World.onStore_of_ok allocating), bind_of_ok updating,
    bind_of_ok (World.onStore_of_ok pushing)]
  exact .ok ⟨asListed.now, shown.whole⟩

theorem steps_stepCapture (sound : matcher.Sound) (id : NodeId) (name : String) (child : NodeId)
    (signal : Signal) : Steps matcher.ticks (stepCapture id name child signal matcher) := by
  obtain ⟨rank, entries, bindings, as⟩ := sound.midwayAs
  unfold stepCapture
  split
  · obtain ⟨around, member, ⟨outer, isCapture⟩, ran⟩ | failed := openCapture_cases as.shown id
    · rw [bind_of_ok ran, bind_of_ok (rfl : (get : MatcherM Matcher) matcher = .ok matcher matcher)]
      exact steps_openCapture as member isCapture id name _ child
    · rw [bind_of_error failed]
      exact sound.midway.error (.unbound (by decide))
  · obtain ⟨closing, member, ⟨record, isCapture⟩, ran⟩ | failed := openCapture_cases as.shown id
    · obtain ⟨closed, changed, updating, asClosed, -⟩ := as.updateCapture
        (fun record => { record with stop := some matcher.subject.cursor }) [] closing.position
        member rfl isCapture rfl (List.append_nil _).symm
          (fun _ impossible => nomatch impossible) id
        .notACapture
      rw [bind_of_ok ran, bind_of_ok (rfl : (get : MatcherM Matcher) matcher = .ok matcher matcher),
        bind_of_ok updating]
      exact ((asClosed.midway (Nat.le_succ _)).remove (by decide)).bind fun _ _ removed =>
        .ok (removed.finish id)
    · rw [bind_of_error failed]
      exact sound.midway.error (.unbound (by decide))
  · exact sound.midway.error (.unexpectedSignal id _)

/-! ### The root -/

/-- The global object leads to a capture. -/
theorem rootMatch_ok {limit : Nat} (shown : matcher.store.ShapedAs limit size rank entries bindings)
    (blamed : NodeId) : ∃ root, matcher.rootMatch blamed = .ok root ∧
      Entry.At entries Payload.IsCapture root := by
  obtain ⟨context, bound⟩ := shown.shaped.anchored
  obtain ⟨value, looked, -, suits⟩ | ⟨-, unbound⟩ := shown.lookup_cases globalName
  · obtain ⟨position, rfl, root, ⟨entry, member, rfl, isObject⟩, isCapture⟩ := suits.isContext
    have peeked := shown.accounts.stands.peek member
    rw [isObject] at peeked
    refine ⟨root, ?_, isCapture⟩
    unfold Matcher.rootMatch
    simp only [bind, Except.bind, Except.mapError, looked, Value.reference?, peeked]
    rfl
  · exact absurd (List.mem_map_of_mem bound) unbound

theorem MidwayAs.setBounds (as : matcher.MidwayAs ticks size rank entries bindings)
    (small : size ≤ ticks + 4) (id : NodeId) (start stop : Option Nat) :
    ∃ after, Matcher.setBounds id start stop matcher = .ok () after ∧ after.Midway ticks := by
  obtain ⟨_, found, entry, member, rfl, record, isCapture⟩ := rootMatch_ok as.shown id
  obtain ⟨after, changed, updating, still, -⟩ := as.updateCapture
    (fun record => { record with start := start.getD record.start, stop := stop }) [] entry.position
    member rfl isCapture rfl (List.append_nil _).symm
    (fun _ impossible => nomatch impossible) id .rootIsNoCapture
  refine ⟨after, ?_, still.midway small⟩
  unfold Matcher.setBounds
  rw [bind_of_ok (rfl : (get : MatcherM Matcher) matcher = .ok matcher matcher), found]
  exact updating

theorem steps_attempt (as : matcher.MidwayAs ticks size rank entries bindings)
    (small : size ≤ ticks + 4) (id child : NodeId) (retry : Bool) :
    Steps ticks (attempt id child retry matcher) := by
  obtain ⟨after, ran, midway⟩ := as.setBounds small id (some matcher.subject.cursor) none
  change Steps ticks ((Matcher.setBounds id _ none >>= fun _ => _) matcher)
  rw [bind_of_ok ran]
  refine .ok ?_
  dsimp only
  split
  · exact (midway.leaveChoice id _).alike rfl rfl
  · exact midway.alike rfl rfl

theorem steps_stepRoot (sound : matcher.Sound) (id child : NodeId) (search : Bool)
    (signal : Signal) :
    Steps matcher.ticks (stepRoot id child search signal matcher) := by
  obtain ⟨rank, entries, bindings, as⟩ := sound.midwayAs
  unfold stepRoot
  split
  · exact steps_attempt as (Nat.le_succ _) id child search
  · obtain ⟨after, ran, midway⟩ :=
      as.setBounds (Nat.le_succ _) id none (some matcher.subject.cursor)
    change Steps matcher.ticks ((Matcher.setBounds id none _ >>= fun _ => _) matcher)
    rw [bind_of_ok ran]
    exact .ok (midway.finish id)
  · rw [bind_of_ok (rfl : (get : MatcherM Matcher) matcher = .ok matcher matcher)]
    split
    · exact .ok (sound.midway.alike rfl rfl)
    · have moved : (matcher.moveTo (matcher.subject.cursor + 1)).MidwayAs matcher.ticks
          (matcher.ticks + 3) rank entries bindings := ⟨rfl, as.shown⟩
      exact steps_attempt moved (Nat.le_succ _) id child true
  · exact sound.midway.error (.unexpectedSignal id _)

/-! ### Ticks -/

theorem steps_stepNode (sound : matcher.Sound) (id : NodeId) (node : Node) (signal : Signal) :
    Steps matcher.ticks (stepNode id node signal matcher) := by
  cases node with
  | root child search => exact steps_stepRoot sound id child search signal
  | text characters => exact steps_finishIf sound.midway _ id _
  | any => exact steps_finishIf sound.midway _ id _
  | charClass set => exact steps_finishIf sound.midway _ id _
  | anchor anchor => exact steps_finishIf sound.midway _ id _
  | sequence children => exact steps_stepSequence sound.midway id children signal
  | alternation children => exact steps_stepAlternation sound.midway id children signal
  | repetition child min max lazily =>
    exact steps_stepRepetition sound id child min max lazily signal
  | atomic child => exact steps_stepAtomic sound id child signal
  | lookahead child negative => exact steps_stepLookahead sound id child negative signal
  | capture name child => exact steps_stepCapture sound id name child signal

theorem steps_collect (midway : matcher.Midway ticks) : Steps ticks (collect matcher) := by
  unfold collect
  rw [bind_of_ok (rfl : (get : MatcherM Matcher) matcher = .ok matcher matcher)]
  split
  · obtain ⟨result, store, ran, still⟩ | ⟨store, ran, clearable, tooLarge⟩ :=
      midway.shaped.poll_cases matcher.collector
    · rw [bind_of_ok (World.onStore_of_ok ran)]
      exact .ok ⟨midway.now, still⟩
    · rw [bind_of_error (onStore_of_error ran)]
      exact .error midway.now (.overflow (by omega)) clearable
  · exact .ok midway

theorem steps_stepForward (sound : matcher.Sound) {id : NodeId} (running : matcher.node = some id) :
    Steps matcher.ticks (stepForward matcher) := by
  unfold stepForward
  rw [bind_of_ok (rfl : (get : MatcherM Matcher) matcher = .ok matcher matcher), running]
  dsimp only
  cases matcher.program.node? id with
  | none => exact sound.midway.error (.unknownNode id)
  | some node => exact (steps_stepNode sound id node _).bind fun _ _ stepped =>
    steps_collect stepped

theorem steps_stepBackward (sound : matcher.Sound) :
    Steps matcher.ticks (stepBackward matcher) := by
  have rolled := sound.midway.shaped.rollback
  unfold stepBackward
  rw [bind_of_ok (rfl : (get : MatcherM Matcher) matcher = .ok matcher matcher)]
  generalize matcher.store.rollback = outcome at rolled
  obtain ⟨point, store⟩ := outcome
  cases point with
  | none => exact .ok ⟨rfl, rolled⟩
  | some point => exact .ok ⟨rfl, rolled⟩

theorem Midway.countTick (midway : matcher.Midway ticks) :
    matcher.countTick.Sound ∧ matcher.countTick.ticks = ticks + 1 := by
  obtain ⟨rfl, shaped⟩ := midway
  unfold Matcher.countTick
  dsimp only
  split
  · exact ⟨shaped.alike rfl rfl rfl, rfl⟩
  · exact ⟨shaped, rfl⟩

/-- A tick that is taken counts, unless the run is over. -/
theorem ends_tick (sound : matcher.Sound) (running : matcher.isDone = false) :
    Ends matcher.ticks (fun goesOn after => if goesOn then
      after.Sound ∧ after.ticks = matcher.ticks + 1
      else after.Midway matcher.ticks) (tick matcher) := by
  unfold tick
  rw [bind_of_ok (rfl : (get : MatcherM Matcher) matcher = .ok matcher matcher)]
  cases direction : matcher.direction with
  | forward =>
    have someNode : ∃ id, matcher.node = some id := by
      refine Option.ne_none_iff_exists'.mp fun none => ?_
      simp [isDone, direction, none] at running
    obtain ⟨id, isNode⟩ := someNode
    exact (steps_stepForward sound isNode).bind fun _ _ stepped => .ok stepped.countTick
  | backward =>
    refine (steps_stepBackward sound).bind fun resumed after rolled => ?_
    cases resumed with
    | true => exact .ok rolled.countTick
    | false => exact .ok rolled

/-! ### Calls -/

/-- An outcome of a number of ticks. -/
inductive DriveEnds (most : Nat) : EStateM.Result Abort Matcher Outcome → Prop
  | ok {outcome : Outcome} {after : Matcher} (clearable : after.store.Clearable)
    (sound : outcome ≠ .noMatch → after.Sound) (counted : after.ticks ≤ most) :
    DriveEnds most (.ok outcome after)
  | error {abort : Abort} {after : Matcher} (clearable : after.store.Clearable)
    (excused : abort.Excused after.ticks) (counted : after.ticks + 1 ≤ most) :
    DriveEnds most (.error abort after)

theorem driveEnds_drive (sound : matcher.Sound) (allowance : Nat) :
    DriveEnds (matcher.ticks + allowance) (drive allowance matcher) := by
  induction allowance generalizing matcher with
  | zero =>
    unfold drive
    have noted : (matcher.note (.paused matcher.ticks)).Sound :=
      Store.Shaped.alike sound rfl rfl rfl
    split
    · exact .ok sound.clearable (fun _ => sound) (Nat.le_refl _)
    · exact .ok noted.clearable (fun _ => noted) (Nat.le_refl _)
  | succ allowance inductionHypothesis =>
    unfold drive
    split
    · exact .ok sound.clearable (fun _ => sound) (Nat.le_add_right _ _)
    · rename_i running
      have ends := ends_tick sound (Bool.not_eq_true _ ▸ running)
      dsimp only
      generalize tick matcher = result at ends
      cases ends with
      | error now excused clearable =>
        exact .error clearable (now.symm ▸ excused) (by omega)
      | @ok goesOn after holds =>
        cases goesOn with
        | true =>
          obtain ⟨still, counted⟩ := holds
          have rest := inductionHypothesis still
          rw [counted] at rest
          rwa [show matcher.ticks + (allowance + 1) = matcher.ticks + 1 + allowance by omega]
        | false =>
          have midway : after.Midway matcher.ticks := holds
          exact .ok midway.shaped.clearable (fun impossible => absurd rfl impossible)
            (midway.now ▸ Nat.le_add_right _ _)

/-- The match tree of a run can be read. -/
theorem Sound.result (sound : matcher.Sound) : ∃ tree, matcher.result = .ok tree := by
  obtain ⟨rank, entries, bindings, shown⟩ := sound.shows
  unfold Matcher.result
  split
  · obtain ⟨root, found, isCapture⟩ := rootMatch_ok shown matcher.program.root
    have fewer : (entries.filter fun entry => rank root < rank entry.position).card ≤
        matcher.store.chain.counters.heapSize :=
      (Multiset.card_le_card (Multiset.filter_le _ _)).trans
        shown.accounts.stands.chain.heap.card_le
    rw [found]
    exact shown.shaped.extract shown.accounts.stands _ _ isCapture (Nat.lt_succ_of_le fewer)
  · exact ⟨none, rfl⟩

/-- A matcher between two calls that have come to a number of ticks. -/
structure Settled (most : Nat) (matcher : Matcher) : Prop where
  clearable : matcher.store.Clearable
  sound : matcher.status = .paused → matcher.Sound
  counted : matcher.ticks ≤ most

/-- An outcome of a call, when all calls may have come to a number of ticks. -/
inductive CallEnds (most : Nat) : EStateM.Result Abort Matcher Outcome → Prop
  | ok {outcome : Outcome} {after : Matcher} (settled : after.Settled most)
    (readable : outcome = .matched → ∃ tree, after.result = .ok tree) :
    CallEnds most (.ok outcome after)
  | failed {failure : Failure} {after : Matcher} (settled : after.Settled most)
    (expected : failure.FromLinks ∨ failure = .alreadyRunning ∨ failure = .notPaused) :
    CallEnds most (.error (.failed failure) after)
  | overflow {defect : Defect} {after : Matcher} (settled : after.Settled most)
    (many : 0x100000000 ≤ after.ticks + 1) (counted : after.ticks + 1 ≤ most) :
    CallEnds most (.error (.defect defect) after)

theorem CallEnds.reached {most : Nat} {result : EStateM.Result Abort Matcher Outcome}
    (ends : CallEnds most result) : (Action.reached result).Settled most := by
  cases ends with
  | ok settled _ => exact settled
  | failed settled _ => exact settled
  | overflow settled _ _ => exact settled

theorem callEnds_execute (sound : matcher.Sound) (budget : Budget) :
    CallEnds (matcher.ticks + budget.allowance) (execute budget matcher) := by
  have ready : Sound { matcher with status := .executing } := sound
  have ends := driveEnds_drive ready budget.allowance
  have status := status_drive budget.allowance { matcher with status := .executing }
  unfold execute
  generalize drive budget.allowance { matcher with status := .executing } = result at ends status
  cases ends with
  | @ok outcome after clearable still counted =>
    cases outcome with
    | matched =>
      have matched : Sound { after with status := .ended, outcome := some .matched } :=
        still (fun impossible => nomatch impossible)
      exact .ok ⟨clearable, (fun impossible => nomatch impossible), counted⟩ fun _ => matched.result
    | paused =>
      exact .ok ⟨clearable, fun _ => still (fun impossible => nomatch impossible), counted⟩
        fun impossible => nomatch impossible
    | noMatch =>
      exact .ok ⟨clearable, (fun impossible => nomatch impossible), counted⟩
        fun impossible => nomatch impossible
  | @error abort after clearable excused counted =>
    cases excused with
    | failed links =>
      exact .failed ⟨⟨clearable.wiped, clearable.idle⟩, (fun impossible => nomatch impossible),
        Nat.le_of_succ_le counted⟩ (.inl links)
    | overflow many =>
      refine .overflow ⟨clearable, fun paused => ?_, Nat.le_of_succ_le counted⟩ many counted
      have executing : after.status = .executing := status
      rw [executing] at paused
      cases paused

/-- An open root match and the object that leads to it are shaped. -/
theorem shaped_openRoot {store : Store} {context place : Nat} (inOrder : store.InOrder)
    (alone : store.chain.older = []) (modest : store.Modest size)
    (shows : store.Shows (.ofRoot context place 0 none [])) : store.Shaped 0 size := by
  let root : Entry := ⟨place, .capture { name := rootName, parent := none, start := 0 }, 2⟩
  let object : Entry := ⟨context, .object [(rootName, .ref place)], 1⟩
  let bindings : Bindings := [(globalName, .ref context), (openName, .ref place)]
  have stands : store.Stands {root, object} bindings := shows
  obtain ⟨_, _, tidy⟩ := shows.tidyRoot
  have isRoot : Entry.At {root, object} Payload.IsCapture place :=
    ⟨root, by simp, rfl, _, rfl⟩
  have shaped : Entry.Shaped 0 (fun _ => 0) {root, object} bindings := by
    refine ⟨fun name value member => ?_, ⟨context, List.mem_cons_self⟩,
      fun entry member record same child inside => ?_⟩
    · obtain isGlobal | isOpen := List.mem_cons.mp member
      · cases isGlobal
        exact .context ⟨place, ⟨object, by simp, rfl, rfl⟩, isRoot⟩
      · cases List.mem_singleton.mp isOpen
        exact .openCapture isRoot
    · obtain rfl | isObject := Multiset.mem_cons.mp member
      · cases same
        cases inside
      · rw [Multiset.mem_singleton.mp isObject] at same
        cases same
  exact ⟨inOrder, Chain.eachView_of_alone alone
    ⟨_, _, _, (stands.accounts tidy.accounts).snapshot, shaped⟩, modest⟩

theorem prepare_sound (clearable : matcher.store.Clearable) (entry : NodeId) (text : List Char) :
    ∃ after, prepare entry text matcher = .ok () after ∧ after.Sound ∧ after.ticks = 0 := by
  obtain ⟨place, context, first, second, third, store, allocating, allocatingNext, pushing,
    pushingNext, shows, moves⟩ := (Store.stands_clear clearable.wiped clearable.idle).openRoot
  have cleared : matcher.store.clear.Modest 1 :=
    ⟨fun generation member => List.mem_singleton.mp member ▸ Nat.zero_le 1,
      List.pairwise_singleton _ _, (fun impossible => nomatch impossible)⟩
  have inOrder : store.InOrder :=
    ⟨shows.chain.wiped, ⟨moves.chain.keeps.rooted fun index inside =>
      absurd inside (Nat.not_lt_zero index), moves.chain.keeps.older ▸ trivial⟩, shows.idle⟩
  have shaped : store.Shaped 0 3 :=
    shaped_openRoot inOrder moves.chain.keeps.older (cleared.moves moves) shows
  let opened : Matcher :=
    { matcher with store := store, subject := .ofList text, ticks := 0, outcome := none }
  refine ⟨{ (opened.note (.started text.length entry)).goto entry .enter with
    direction := .forward }, ?_, shaped.alike rfl rfl rfl, rfl⟩
  unfold Matcher.prepare
  rw [bind_of_ok (rfl : (modify _ : MatcherM PUnit) matcher = .ok ⟨⟩ _),
    bind_of_ok (World.onStore_of_ok allocating), bind_of_ok (World.onStore_of_ok allocatingNext),
    bind_of_ok (World.onStore_of_ok pushing), bind_of_ok (World.onStore_of_ok pushingNext)]
  rfl

/-- A call of a matcher. -/
inductive Call
  | run (entry : NodeId) (text : List Char) (budget : Budget)
  | resume (budget : Budget)

namespace Call

/-- What a call does. -/
def perform : Call → MatcherM Outcome
  | .run entry text budget => Matcher.run entry text budget
  | .resume budget => Matcher.resume budget

/-- The number of ticks a call may take. -/
def allowance : Call → Nat
  | .run _ _ budget => budget.allowance
  | .resume budget => budget.allowance

end Call

/-- A matcher after some calls, whatever these came to. -/
def after (matcher : Matcher) (calls : List Call) : Matcher :=
  calls.foldl (fun matcher call => Action.reached (call.perform matcher)) matcher

theorem Settled.mono {most larger : Nat} (settled : matcher.Settled most) (more : most ≤ larger) :
    matcher.Settled larger := { settled with counted := settled.counted.trans more }

theorem CallEnds.mono {most larger : Nat} {result : EStateM.Result Abort Matcher Outcome}
    (ends : CallEnds most result) (more : most ≤ larger) : CallEnds larger result := by
  cases ends with
  | ok settled readable => exact .ok (settled.mono more) readable
  | failed settled expected => exact .failed (settled.mono more) expected
  | overflow settled many counted => exact .overflow (settled.mono more) many (counted.trans more)

/-- One call. -/
theorem callEnds_perform {most : Nat} (settled : matcher.Settled most) (call : Call) :
    CallEnds (most + call.allowance) (call.perform matcher) := by
  have idle := settled.mono (Nat.le_add_right most call.allowance)
  cases call with
  | run entry text budget =>
    change CallEnds _ (Matcher.run entry text budget matcher)
    unfold Matcher.run
    rw [bind_of_ok (rfl : (get : MatcherM Matcher) matcher = .ok matcher matcher)]
    split
    · exact .failed idle (.inr (.inl rfl))
    · split
      · exact .failed idle (.inl (.unknownNode entry))
      · obtain ⟨ready, preparing, sound, unticked⟩ := prepare_sound settled.clearable entry text
        rw [bind_of_ok preparing]
        refine (callEnds_execute sound budget).mono ?_
        rw [unticked, Nat.zero_add]
        exact Nat.le_add_left _ _
  | resume budget =>
    change CallEnds _ (Matcher.resume budget matcher)
    unfold Matcher.resume
    rw [bind_of_ok (rfl : (get : MatcherM Matcher) matcher = .ok matcher matcher)]
    split
    · rename_i paused
      exact (callEnds_execute (settled.sound paused) budget).mono
        (Nat.add_le_add_right settled.counted _)
    · exact .failed idle (.inr (.inr rfl))

/-- Any number of calls. -/
theorem settled_after {most : Nat} (settled : matcher.Settled most) (calls : List Call) :
    (matcher.after calls).Settled (most + (calls.map Call.allowance).sum) := by
  induction calls generalizing matcher most with
  | nil => exact settled
  | cons call calls inductionHypothesis =>
    have next := inductionHypothesis (callEnds_perform settled call).reached
    rw [List.map_cons, List.sum_cons, ← Nat.add_assoc]
    exact next

end Matcher

/-- Wrong links do no harm, whatever the nodes of a program are and however they are linked. After
any calls, a call comes to an outcome, and then the match can be read if there is one; or it fails
because of the links or because it was not the time for it. Only once a run has come to 2^32 ticks
something else can go wrong. -/
theorem wrong_links_do_no_harm (program : Program) (settings : Settings) (calls : List Matcher.Call)
    (call : Matcher.Call) :
    match call.perform ((Matcher.ofProgram program settings).after calls) with
    | .ok outcome after => outcome = .matched → ∃ tree, after.result = .ok tree
    | .error (.failed failure) _ =>
      failure.FromLinks ∨ failure = .alreadyRunning ∨ failure = .notPaused
    | .error (.defect _) after => 0x100000000 ≤ after.ticks + 1 ∧
      0x100000000 ≤ ((calls ++ [call]).map Matcher.Call.allowance).sum := by
  have fresh : (Matcher.ofProgram program settings).Settled 0 :=
    ⟨⟨Store.wiped_empty settings.store, rfl⟩, (fun impossible => nomatch impossible), Nat.le_refl 0⟩
  have ends := Matcher.callEnds_perform (Matcher.settled_after fresh calls) call
  generalize call.perform _ = result at ends
  cases ends with
  | ok settled readable => exact readable
  | failed settled expected => exact expected
  | overflow settled many counted =>
    rw [List.map_append, List.sum_append, List.map_singleton, List.sum_singleton]
    exact ⟨many, by omega⟩

end Rewind
