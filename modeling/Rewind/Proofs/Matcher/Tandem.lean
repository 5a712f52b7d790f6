/-
This file runs two matchers in tandem. Their stores are related in some way that the operations of a
store respect, up to a relabelling of the checkpoints that one of them has handed out; otherwise
they stand at the same place of the same run. Every node then does the same to both, and so does
every rollback. What a collector does to the two is left open: where it respects the relation too,
they take every tick together.
-/

import Mathlib
import Rewind.Proofs.Matcher.Leaks
import Rewind.Proofs.Store.Lockstep

namespace Rewind

/-- The operations of a store respect a relation between stores in which the checkpoints of the one
on the left are relabelled. -/
structure Store.Companion (related : Store → Store → Prop) (relabel : Checkpoint → Checkpoint) :
    Prop where
  note : ∀ {left right : Store}, related left right → ∀ event other,
    related (left.note event) (right.note other)
  lookup : ∀ {left right : Store}, related left right → ∀ name,
    left.lookup name = (right.lookup name).map (Value.mapCheckpoint relabel)
  peek : ∀ {left right : Store}, related left right → ∀ position,
    left.peek position = (right.peek position).map (Payload.mapCheckpoint relabel)
  deref : ∀ position, Action.Tandem related id (Payload.mapCheckpoint relabel)
    (Store.deref position) (Store.deref position)
  alloc : ∀ payload, Action.Lockstep related id (Store.alloc (payload.mapCheckpoint relabel))
    (Store.alloc payload)
  update : ∀ position {edit : Payload → Bool × Payload},
    (∀ payload, edit (payload.mapCheckpoint relabel) =
      ((edit payload).1, (edit payload).2.mapCheckpoint relabel)) →
        Action.Lockstep related id (Store.update position edit) (Store.update position edit)
  push : ∀ name value, Action.Lockstep related id
    (Store.push name (value.mapCheckpoint relabel)) (Store.push name value)
  remove : ∀ name, Action.Lockstep related id (Store.remove name) (Store.remove name)
  collapse : ∀ checkpoint, Action.Lockstep related id (Store.collapse (relabel checkpoint))
    (Store.collapse checkpoint)
  freeze : ∀ {left right : Store}, related left right → ∀ resume,
    (left.freeze resume).1 = relabel (right.freeze resume).1 ∧
      related (left.freeze resume).2 (right.freeze resume).2
  rollback : ∀ {left right : Store}, related left right →
    left.rollback.1 = right.rollback.1 ∧ related left.rollback.2 right.rollback.2

/-- What a field of a payload refers to does not change with the checkpoints. -/
theorem Payload.field_mapCheckpoint (relabel : Checkpoint → Checkpoint) (payload : Payload)
    (name : String) :
    ((payload.mapCheckpoint relabel).fields?.bind fun fields => fields.get? name).bind
        Value.reference? =
      (payload.fields?.bind fun fields => fields.get? name).bind Value.reference? := by
  cases payload with
  | object fields =>
    change ((fields.map fun field => (field.1, field.2.mapCheckpoint relabel)).lookup name).bind
      Value.reference? = (fields.lookup name).bind Value.reference?
    induction fields with
    | nil => rfl
    | cons field fields inductionHypothesis =>
      rw [List.map_cons, List.lookup_cons, List.lookup_cons]
      cases name == field.1 with
      | true => exact field.2.reference?_mapCheckpoint relabel
      | false => exact inductionHypothesis
  | list items => rfl
  | capture record => rfl

/-- What a matcher has that its nodes do not change. -/
structure Matcher.Aside where
  program : Program
  settings : RunSettings
  collector : Collector
  status : Status
  outcome : Option Outcome

/-- What its nodes leave aside. -/
def Matcher.aside (matcher : Matcher) : Matcher.Aside :=
  ⟨matcher.program, matcher.settings, matcher.collector, matcher.status, matcher.outcome⟩

/-- The collectors may differ, for they may have looked at the stores at different times. -/
structure Matcher.Aside.SameStanding (left right : Matcher.Aside) : Prop where
  status : left.status = right.status
  outcome : left.outcome = right.outcome

/-- Two matchers at the same place of the same run, whose stores are related. -/
structure Matcher.Paired (related : Store → Store → Prop)
    (aside : Matcher.Aside → Matcher.Aside → Prop) (left right : Matcher) : Prop where
  program : left.program = right.program
  settings : left.settings = right.settings
  subject : left.subject = right.subject
  node : left.node = right.node
  signal : left.signal = right.signal
  direction : left.direction = right.direction
  ticks : left.ticks = right.ticks
  store : related left.store right.store
  aside : aside left.aside right.aside

namespace Matcher

open Rewind.Action

variable {related : Store → Store → Prop} {aside : Aside → Aside → Prop}
  {relabel : Checkpoint → Checkpoint} {left right : Matcher} {α β : Type}

/-! ### Moves -/

theorem Paired.goto (paired : left.Paired related aside right) (node : NodeId) (signal : Signal) :
    (left.goto node signal).Paired related aside (right.goto node signal) :=
  { paired with node := rfl, signal := rfl }

theorem Paired.backtrack (paired : left.Paired related aside right) :
    left.backtrack.Paired related aside right.backtrack :=
  { paired with direction := rfl }

theorem Paired.moveTo (paired : left.Paired related aside right) (cursor : Nat) :
    (left.moveTo cursor).Paired related aside (right.moveTo cursor) :=
  { paired with subject := congrArg (Subject.moveTo · cursor) paired.subject }

theorem Paired.finish (paired : left.Paired related aside right) (node : NodeId) :
    (left.finish node).Paired related aside (right.finish node) := by
  have link : left.program.link? node = right.program.link? node := by rw [paired.program]
  unfold Matcher.finish
  rw [link]
  split
  · exact paired.goto _ _
  · exact { paired with node := rfl }

theorem Paired.isDone (paired : left.Paired related aside right) : left.isDone = right.isDone := by
  unfold Matcher.isDone
  rw [paired.direction, paired.node]

theorem tandem_onStore {onLeft onRight : α → β} {action other : StoreM α}
    (tandem : Tandem related onLeft onRight action other) :
    Tandem (Paired related aside) onLeft onRight (onStore action) (onStore other) := by
  intro left right paired
  have concur := tandem left.store right.store paired.store
  unfold onStore onPart
  generalize action left.store = outcome at concur
  generalize other right.store = outcome' at concur
  cases concur with
  | ok same reached => exact .ok same { paired with store := reached }
  | error reached => exact .error { paired with store := reached }

/-- An action does the same to paired matchers. -/
abbrev Coupled (related : Store → Store → Prop) (aside : Aside → Aside → Prop)
    (action : MatcherM α) : Prop := Lockstep (Paired related aside) id action action

theorem coupled_confused (node : NodeId) (confusion : Confusion) :
    Coupled related aside (confused node confusion : MatcherM α) := lockstep_throw _

theorem coupled_finish (node : NodeId) :
    Coupled related aside (modify fun matcher => matcher.finish node) :=
  lockstep_modify fun _ _ paired => paired.finish node

theorem coupled_enter (node : NodeId) :
    Coupled related aside (modify fun matcher => matcher.enter node) :=
  lockstep_modify fun _ _ paired => paired.goto node .enter

theorem coupled_backtrack : Coupled related aside (modify backtrack) :=
  lockstep_modify fun _ _ paired => paired.backtrack

/-! ### Nodes that leave the store alone -/

theorem coupled_finishIf (passed : Bool) (id : NodeId) (cursor : Nat) :
    Coupled related aside (finishIf passed id cursor) := by
  refine lockstep_modify fun left right paired => ?_
  split
  · exact (paired.moveTo cursor).finish id
  · exact paired.backtrack

theorem coupled_stepText (id : NodeId) (characters : List Char) :
    Coupled related aside (stepText id characters) :=
  lockstep_get fun left right paired => by
    rw [paired.subject]
    exact coupled_finishIf _ id _

theorem coupled_stepChar (id : NodeId) (accepts : Char → Bool) :
    Coupled related aside (stepChar id accepts) :=
  lockstep_get fun left right paired => by
    rw [paired.subject]
    exact coupled_finishIf _ id _

theorem coupled_stepAnchor (id : NodeId) (anchor : Anchor) :
    Coupled related aside (stepAnchor id anchor) :=
  lockstep_get fun left right paired => by
    rw [paired.subject]
    exact coupled_finishIf _ id _

theorem coupled_stepSequence (id : NodeId) (children : List NodeId) (signal : Signal) :
    Coupled related aside (stepSequence id children signal) := by
  refine lockstep_modify fun left right paired => ?_
  split
  · exact paired.goto _ _
  · exact paired.finish id

/-! ### Operations on the store -/

section

variable (companion : Store.Companion related relabel)
include companion

theorem Paired.note (paired : left.Paired related aside right) (event other : Event) :
    (left.note event).Paired related aside (right.note other) :=
  { paired with store := companion.note paired.store event other }

theorem Paired.freeze (paired : left.Paired related aside right) (node : NodeId) (signal : Signal) :
    (left.freeze node signal).1 = relabel (right.freeze node signal).1 ∧
      (left.freeze node signal).2.Paired related aside (right.freeze node signal).2 := by
  have cursor : left.subject.cursor = right.subject.cursor := by rw [paired.subject]
  obtain ⟨same, frozen⟩ := companion.freeze paired.store ⟨node, signal, right.subject.cursor⟩
  unfold Matcher.freeze
  rw [cursor]
  exact ⟨same, { paired with store := frozen }⟩

theorem coupled_leaveChoice (node : NodeId) (signal : Signal) :
    Coupled related aside (modify fun matcher => matcher.leaveChoice node signal) :=
  lockstep_modify fun _ _ paired => (paired.freeze companion node signal).2

/-- The checkpoint taken on the left is the one taken on the right, relabelled. -/
theorem tandem_freeze (node : NodeId) (signal : Signal) :
    Tandem (Paired related aside) id relabel
      (modifyGet fun matcher => matcher.freeze node signal : MatcherM Checkpoint)
      (modifyGet fun matcher => matcher.freeze node signal) :=
  lockstep_modifyGet fun _ _ paired => paired.freeze companion node signal

/-- Looking up a name. -/
theorem tandem_lookup (name : String) {onLeft onRight : α → β} {next other : Value → MatcherM α}
    (goesOn : ∀ value : Value, Tandem (Paired related aside) onLeft onRight
      (next (value.mapCheckpoint relabel)) (other value)) :
    Tandem (Paired related aside) onLeft onRight (do next (← ofStore ((← get).store.lookup name)))
      (do other (← ofStore ((← get).store.lookup name))) :=
  lockstep_get fun left right paired => by
    rw [companion.lookup paired.store]
    cases right.store.lookup name with
    | error error => exact lockstep_throw _
    | ok value => exact goesOn value

/-! ### Alternations and repetitions -/

theorem coupled_tryBranch (id : NodeId) (children : List NodeId) (branch : Nat) :
    Coupled related aside (tryBranch id children branch) := by
  refine lockstep_modify fun left right paired => ?_
  split
  · exact paired.backtrack
  · split
    · exact (paired.freeze companion id _).2.goto _ _
    · exact paired.goto _ _

theorem coupled_stepAlternation (id : NodeId) (children : List NodeId) (signal : Signal) :
    Coupled related aside (stepAlternation id children signal) := by
  unfold stepAlternation
  split
  · exact coupled_tryBranch companion id children 0
  · exact coupled_finish id
  · exact coupled_tryBranch companion id children _

/-- The position of a frame is the same, and so are its items, up to the relabelling. -/
theorem tandem_readFrame (node : NodeId) (name : String) :
    Tandem (Paired related aside) id (Prod.map id (List.map (Value.mapCheckpoint relabel)))
      (readFrame node name) (readFrame node name) := by
  refine tandem_lookup companion name fun value => ?_
  rw [Value.reference?_mapCheckpoint]
  cases value.reference? with
  | none => exact lockstep_throw _
  | some position =>
    refine lockstep_bind (tandem_onStore (companion.deref position)) fun payload other same => ?_
    cases same
    cases other with
    | list items => exact lockstep_pure rfl
    | object fields => exact lockstep_throw _
    | capture record => exact lockstep_throw _

/-- What a repetition keeps is not relabelled. -/
theorem coupled_repetitionFrame (id : NodeId) :
    Coupled related aside (repetitionFrame id) := by
  refine lockstep_bind (tandem_readFrame companion id repetitionName)
    fun frame ⟨position, items⟩ same => ?_
  cases same
  rcases items with - | ⟨first, others⟩
  · exact lockstep_throw _
  · cases first with
    | int count =>
      rcases others with - | ⟨second, rest⟩
      · exact lockstep_throw _
      · cases second with
        | cursor start =>
          cases rest with
          | nil => exact lockstep_pure rfl
          | cons third rest => exact lockstep_throw _
        | _ => exact lockstep_throw _
    | _ => exact lockstep_throw _

theorem coupled_updateFrame (frame index : Nat) {value : Value}
    (plain : value.mapCheckpoint relabel = value) :
    Coupled related aside (updateFrame frame index value) := by
  refine lockstep_bind (tandem_onStore (companion.update frame fun payload => ?_))
    fun present other same => ?_
  · cases payload with
    | list items =>
      simp only [Payload.mapCheckpoint, setItem, List.length_map, List.map_set, plain]
    | object fields => rfl
    | capture record => rfl
  · cases same
    split
    · exact lockstep_pure rfl
    · exact lockstep_throw _

theorem coupled_iterate (frame : Nat) (child : NodeId) :
    Coupled related aside (iterate frame child) :=
  lockstep_get fun left right paired => by
    rw [paired.subject]
    exact lockstep_bind (coupled_updateFrame companion frame 1 rfl) fun _ _ _ => coupled_enter child

theorem coupled_leaveRepetition (id : NodeId) : Coupled related aside (leaveRepetition id) :=
  lockstep_bind (tandem_onStore (companion.remove _)) fun _ _ _ => coupled_finish id

theorem coupled_decideRepetition (id child : NodeId) (min : Nat) (max : Option Nat) (lazily : Bool)
    (frame count : Nat) :
    Coupled related aside (decideRepetition id child min max lazily frame count) := by
  unfold decideRepetition
  split
  · exact coupled_iterate companion frame child
  · split
    · exact coupled_leaveRepetition companion id
    · split
      · exact lockstep_bind (coupled_leaveChoice companion id _) fun _ _ _ =>
          coupled_leaveRepetition companion id
      · exact lockstep_bind (coupled_leaveChoice companion id _) fun _ _ _ =>
          coupled_iterate companion frame child

theorem coupled_stepRepetition (id child : NodeId) (min : Nat) (max : Option Nat) (lazily : Bool)
    (signal : Signal) :
    Coupled related aside (stepRepetition id child min max lazily signal) := by
  unfold stepRepetition
  split
  · refine lockstep_get fun left right paired => ?_
    rw [paired.subject]
    refine lockstep_bind (tandem_onStore (companion.alloc (.list [.int 0, .cursor _])))
      fun frame other same => ?_
    cases same
    exact lockstep_bind (tandem_onStore (companion.push _ (.ref frame))) fun _ _ _ =>
      coupled_decideRepetition companion id child min max lazily frame 0
  · refine lockstep_bind (coupled_repetitionFrame companion id)
      fun (frame, done, start) other same => ?_
    cases same
    dsimp only
    split
    · refine lockstep_bind (coupled_updateFrame companion frame 0 rfl) fun _ _ _ =>
        lockstep_get fun left right paired => ?_
      rw [paired.subject]
      split
      · exact coupled_leaveRepetition companion id
      · exact coupled_decideRepetition companion id child min max lazily _ _
    · exact lockstep_throw _
  · exact coupled_leaveRepetition companion id
  · refine lockstep_bind (coupled_repetitionFrame companion id) fun frame other same => ?_
    cases same
    exact coupled_iterate companion _ child
  · exact coupled_confused id _

/-! ### Atomic groups and lookaheads -/

theorem coupled_stepAtomic (id child : NodeId) (signal : Signal) :
    Coupled related aside (stepAtomic id child signal) := by
  unfold stepAtomic
  split
  · refine lockstep_bind (tandem_freeze companion id _) fun checkpoint other same => ?_
    cases same
    exact lockstep_bind (tandem_onStore (companion.push _ (.checkpoint other))) fun _ _ _ =>
      coupled_enter child
  · refine tandem_lookup companion atomicName fun value => ?_
    cases value with
    | checkpoint checkpoint =>
      exact lockstep_bind (tandem_onStore (companion.remove _)) fun _ _ _ =>
        lockstep_bind (tandem_onStore (companion.collapse checkpoint)) fun _ _ _ =>
          coupled_finish id
    | _ => exact lockstep_throw _
  · exact coupled_backtrack
  · exact coupled_confused id _

theorem coupled_stepLookahead (id child : NodeId) (negative : Bool) (signal : Signal) :
    Coupled related aside (stepLookahead id child negative signal) := by
  unfold stepLookahead
  split
  · refine lockstep_get fun left right paired => ?_
    rw [paired.subject]
    refine lockstep_bind (tandem_freeze companion id _) fun checkpoint other same => ?_
    cases same
    refine lockstep_bind (tandem_onStore (companion.alloc (.list [.checkpoint other, .cursor _])))
      fun frame place same => ?_
    cases same
    exact lockstep_bind (tandem_onStore (companion.push _ (.ref frame))) fun _ _ _ =>
      coupled_enter child
  · refine lockstep_bind (tandem_readFrame companion id lookaheadName)
      fun frame ⟨position, items⟩ same => ?_
    cases same
    rcases items with - | ⟨first, others⟩
    · exact lockstep_throw _
    · cases first with
      | checkpoint checkpoint =>
        rcases others with - | ⟨second, rest⟩
        · exact lockstep_throw _
        · cases second with
          | cursor start =>
            cases rest with
            | nil =>
              refine lockstep_bind (tandem_onStore (companion.remove _)) fun _ _ _ =>
                lockstep_bind (tandem_onStore (companion.collapse checkpoint)) fun _ _ _ =>
                  lockstep_modify fun left right paired => ?_
              split
              · exact paired.backtrack
              · exact (paired.moveTo _).finish id
            | cons third rest => exact lockstep_throw _
          | _ => exact lockstep_throw _
      | _ => exact lockstep_throw _
  · refine lockstep_modify fun left right paired => ?_
    split
    · exact paired.finish id
    · exact paired.backtrack
  · exact coupled_confused id _

/-! ### Captures and the root -/

theorem coupled_openCapture (id : NodeId) : Coupled related aside (openCapture id) := by
  refine tandem_lookup companion openName fun value => ?_
  rw [Value.reference?_mapCheckpoint]
  cases value.reference? with
  | none => exact lockstep_throw _
  | some position => exact lockstep_pure rfl

theorem coupled_updateCapture (id : NodeId) (position : Nat) (confusion : Confusion)
    (edit : Capture → Capture) :
    Coupled related aside (updateCapture id position confusion edit) := by
  refine lockstep_bind (tandem_onStore (companion.update position fun payload => ?_))
    fun isCapture other same => ?_
  · cases payload <;> rfl
  · cases same
    split
    · exact lockstep_pure rfl
    · exact coupled_confused id confusion

theorem coupled_stepCapture (id : NodeId) (name : String) (child : NodeId) (signal : Signal) :
    Coupled related aside (stepCapture id name child signal) := by
  unfold stepCapture
  split
  · refine lockstep_bind (coupled_openCapture companion id) fun parent other same =>
      lockstep_get fun left right paired => ?_
    cases same
    rw [paired.subject]
    refine lockstep_bind (tandem_onStore (companion.alloc (.capture _))) fun opened other same => ?_
    cases same
    exact lockstep_bind (coupled_updateCapture companion id _ _ _) fun _ _ _ =>
      lockstep_bind (tandem_onStore (companion.push _ (.ref opened))) fun _ _ _ =>
        coupled_enter child
  · refine lockstep_bind (coupled_openCapture companion id) fun closing other same =>
      lockstep_get fun left right paired => ?_
    cases same
    rw [paired.subject]
    exact lockstep_bind (coupled_updateCapture companion id _ _ _) fun _ _ _ =>
      lockstep_bind (tandem_onStore (companion.remove _)) fun _ _ _ => coupled_finish id
  · exact coupled_confused id _

theorem Paired.rootMatch (paired : left.Paired related aside right) (blamed : NodeId) :
    left.rootMatch blamed = right.rootMatch blamed := by
  unfold Matcher.rootMatch
  rw [companion.lookup paired.store]
  cases right.store.lookup globalName with
  | error error => rfl
  | ok context =>
    cases context with
    | ref position =>
      change (left.store.peek position).mapError Failure.store >>= _ =
        (right.store.peek position).mapError Failure.store >>= _
      rw [companion.peek paired.store]
      cases right.store.peek position with
      | error error => rfl
      | ok payload =>
        dsimp only [Except.map, Except.mapError, bind, Except.bind]
        rw [payload.field_mapCheckpoint relabel rootName]
    | _ => rfl

/-- The same tree is below related captures. -/
theorem extract_of_related {store other : Store} (same : related store other) (subject : Subject)
    (blamed : NodeId) (depth : Nat) :
    MatchTree.extract store subject blamed depth =
      MatchTree.extract other subject blamed depth := by
  induction depth with
  | zero => rfl
  | succ depth inductionHypothesis =>
    funext position
    rw [MatchTree.extract, MatchTree.extract, companion.peek same, inductionHypothesis]
    cases other.peek position with
    | error error => rfl
    | ok payload => cases payload <;> rfl

/-- The same can be read of two runs that stand at the same place. -/
theorem Paired.result (paired : left.Paired related aside right)
    (standing : left.aside.SameStanding right.aside)
    (heapSize : left.store.chain.counters.heapSize = right.store.chain.counters.heapSize) :
    left.result = right.result := by
  have status : left.status = right.status := standing.status
  have outcome : left.outcome = right.outcome := standing.outcome
  unfold Matcher.result
  rw [status, outcome, paired.program, paired.rootMatch companion, heapSize,
    extract_of_related companion paired.store, paired.subject]

theorem coupled_setBounds (id : NodeId) (start stop : Option Nat) :
    Coupled related aside (setBounds id start stop) := by
  refine lockstep_get fun left right paired => ?_
  rw [paired.rootMatch companion]
  split
  · exact lockstep_throw _
  · exact coupled_updateCapture companion id _ _ _

theorem coupled_attempt (id child : NodeId) (retry : Bool) :
    Coupled related aside (attempt id child retry) := by
  refine lockstep_get fun left right paired => ?_
  rw [paired.subject]
  refine lockstep_bind (coupled_setBounds companion id _ _) fun _ _ _ =>
    lockstep_modify fun left right paired => ?_
  split
  · exact (paired.freeze companion id _).2.goto _ _
  · exact paired.goto _ _

theorem coupled_stepRoot (id child : NodeId) (search : Bool) (signal : Signal) :
    Coupled related aside (stepRoot id child search signal) := by
  unfold stepRoot
  split
  · exact coupled_attempt companion id child search
  · refine lockstep_get fun left right paired => ?_
    rw [paired.subject]
    exact lockstep_bind (coupled_setBounds companion id _ _) fun _ _ _ => coupled_finish id
  · refine lockstep_get fun left right paired => ?_
    rw [paired.subject]
    split
    · exact coupled_backtrack
    · refine lockstep_bind (lockstep_modify fun left right paired => ?_) fun _ _ _ =>
        coupled_attempt companion id child true
      rw [paired.subject]
      exact paired.moveTo _
  · exact coupled_confused id _

/-- Every node does the same to both, whatever signal it gets. -/
theorem coupled_stepNode (id : NodeId) (node : Node) (signal : Signal) :
    Coupled related aside (stepNode id node signal) := by
  cases node with
  | root child search => exact coupled_stepRoot companion id child search signal
  | text characters => exact coupled_stepText id characters
  | any => exact coupled_stepChar id _
  | charClass set => exact coupled_stepChar id _
  | anchor anchor => exact coupled_stepAnchor id anchor
  | sequence children => exact coupled_stepSequence id children signal
  | alternation children => exact coupled_stepAlternation companion id children signal
  | repetition child min max lazily =>
    exact coupled_stepRepetition companion id child min max lazily signal
  | atomic child => exact coupled_stepAtomic companion id child signal
  | lookahead child negative => exact coupled_stepLookahead companion id child negative signal
  | capture name child => exact coupled_stepCapture companion id name child signal

/-! ### Ticks -/

theorem coupled_stepBackward : Coupled related aside stepBackward := by
  refine lockstep_get fun left right paired left' right' paired' => ?_
  obtain ⟨point, rolled⟩ := companion.rollback paired.store
  generalize left.store.rollback = outcome at point rolled
  generalize right.store.rollback = outcome' at point rolled
  obtain ⟨resume, store⟩ := outcome
  obtain ⟨resume', store'⟩ := outcome'
  cases point
  cases resume with
  | none => exact .ok rfl { paired' with store := rolled }
  | some point =>
    exact .ok rfl { (paired'.goto point.node point.signal).moveTo point.cursor with
      direction := rfl, store := rolled }

/-- Counting a tick, and saying whether the run goes on. -/
theorem coupled_countTick (goesOn : Bool) :
    Coupled related aside (do modify countTick; return goesOn) := by
  refine lockstep_bind (lockstep_modify fun left right paired => ?_) fun _ _ _ => lockstep_pure rfl
  have counted : Paired related aside { left with ticks := left.ticks + 1 }
      { right with ticks := right.ticks + 1 } :=
    { paired with ticks := congrArg (· + 1) paired.ticks }
  have due : (0 < left.settings.noteInterval ∧
        (left.ticks + 1) % left.settings.noteInterval = 0) =
      (0 < right.settings.noteInterval ∧
        (right.ticks + 1) % right.settings.noteInterval = 0) := by
    rw [paired.settings, paired.ticks]
  unfold countTick
  simp only [due]
  split
  · exact counted.note companion _ _
  · exact counted

/-- A run is prepared in the same way once the matchers have been wiped. -/
theorem concur_prepare (entry : NodeId) {text : List Char}
    (wiped : Paired related aside
      { left with store := left.store.clear, subject := .ofList text, ticks := 0, outcome := none }
      { right with
        store := right.store.clear, subject := .ofList text, ticks := 0, outcome := none }) :
    Concur (Paired related aside) id id (prepare entry text left) (prepare entry text right) := by
  have furnish : Coupled related aside (do
      let root ← onStore (Store.alloc (.capture { name := rootName, parent := none, start := 0 }))
      let context ← onStore (Store.alloc (.object [(rootName, .ref root)]))
      onStore (Store.push globalName (.ref context))
      onStore (Store.push openName (.ref root))
      modify fun matcher =>
        { (matcher.note (.started text.length entry)).goto entry .enter with
          direction := .forward }) := by
    refine lockstep_bind (tandem_onStore (companion.alloc (.capture _))) fun root other same => ?_
    cases same
    refine lockstep_bind (tandem_onStore (companion.alloc (.object [(rootName, .ref root)])))
      fun context other same => ?_
    cases same
    refine lockstep_bind (tandem_onStore (companion.push _ (.ref context))) fun _ _ _ => ?_
    refine lockstep_bind (tandem_onStore (companion.push _ (.ref root))) fun _ _ _ => ?_
    exact lockstep_modify fun left right paired =>
      { (paired.note companion _ _).goto entry .enter with direction := rfl }
  exact furnish _ _ wiped

variable (collects : Coupled related aside collect)
include collects

theorem coupled_stepForward : Coupled related aside stepForward := by
  refine lockstep_get fun left right paired => ?_
  rw [paired.node, paired.program, paired.signal]
  cases right.node with
  | none => exact lockstep_throw _
  | some id =>
    dsimp only
    cases right.program.node? id with
    | none => exact lockstep_throw _
    | some node =>
      exact lockstep_bind (coupled_stepNode companion id node right.signal) fun _ _ _ => collects

/-- The two take a tick together. -/
theorem coupled_tick : Coupled related aside tick := by
  refine lockstep_get fun left right paired => ?_
  rw [paired.direction]
  cases right.direction with
  | forward =>
    exact lockstep_bind (coupled_stepForward companion collects) fun _ _ _ =>
      coupled_countTick companion true
  | backward =>
    refine lockstep_bind (coupled_stepBackward companion) fun resumed other same => ?_
    cases same
    cases resumed with
    | true => exact coupled_countTick companion true
    | false => exact lockstep_pure rfl

/-- The two take as many ticks together as they are allowed. -/
theorem coupled_drive (allowance : Nat) : Coupled related aside (drive allowance) := by
  intro left right paired
  induction allowance generalizing left right with
  | zero =>
    rw [drive, drive, paired.isDone]
    split
    · exact .ok rfl paired
    · exact .ok rfl (paired.note companion _ _)
  | succ allowance inductionHypothesis =>
    rw [drive, drive, paired.isDone]
    split
    · exact .ok rfl paired
    · have concur := coupled_tick companion collects left right paired
      generalize tick left = outcome at concur
      generalize tick right = outcome' at concur
      cases concur with
      | error still => exact .error still
      | @ok goesOn _ _ _ same still =>
        cases same
        cases goesOn with
        | false => exact .ok rfl still
        | true => exact inductionHypothesis _ _ still

end

end Matcher

end Rewind
