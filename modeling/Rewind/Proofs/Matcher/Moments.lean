/-
This file looks at the runs of compiled patterns between their ticks. A run starts from the root
with whatever the matcher was used for before, and it may be interrupted at any time; as long as
nothing but ticks and pauses happens to it, it stays in the activation of the root.
-/

import Mathlib
import Rewind.Proofs.Matcher.Discipline
import Rewind.Proofs.Matcher.History

namespace Rewind

namespace Matcher

/-- Where a run from the root may be between two ticks. -/
inductive Between (program : Program) (text : List Char) : Matcher → Prop
  | prepared {settings : Settings} {uses : List Use} {matcher : Matcher}
    (ready : prepare program.root text ((ofProgram program settings).used uses) = .ok () matcher) :
    Between program text matcher
  | ticked {before after : Matcher} {goesOn : Bool} (between : Between program text before)
    (ticks : tick before = .ok goesOn after) : Between program text after
  | interrupted {before after : Matcher} (between : Between program text before)
    (alike : before.Alike after) : Between program text after

variable {program : Program} {text : List Char} {settings : Settings} {uses : List Use}

theorem stable_between (program : Program) (text : List Char) : Stable (Between program text) where
  tick _ _ _ between ticks := .ticked between ticks
  note event between := .interrupted between (alike_note _ event)
  status status outcome between := .interrupted between (alike_withStatus _ status outcome)

/-- Calls lead from one tick to another. -/
theorem between_runWith {first : Budget} {others : List Budget} {outcome : Outcome}
    {reached : Matcher}
    (ran : runWith program.root text first others ((ofProgram program settings).used uses) =
      .ok outcome reached) : reached.Between program text :=
  (stable_between program text).runWith (fun _ ready => .prepared ready) ran

/-- Only a matcher that is not paused in a run can be run. -/
theorem idle_of_runWith {entry : NodeId} {first : Budget} {others : List Budget}
    {matcher reached : Matcher} {outcome : Outcome}
    (ran : runWith entry text first others matcher = .ok outcome reached) :
    matcher.status ≠ .paused := by
  intro paused
  obtain ⟨firstOutcome, reachedFirst, running, -⟩ := Action.bind_eq_ok_iff.mp ran
  unfold run at running
  rw [Action.bind_of_ok (rfl : (get : MatcherM Matcher) matcher = .ok matcher matcher),
    if_pos paused] at running
  cases running

end Matcher

/-- The root in progress, from the start of the text on. -/
def Activation.ofRoot (program : Program) (context place : Nat) (view : Snapshot) : Activation where
  node := program.root
  floor := { older := [], resume := none }
  scene := .ofRoot context place 0 none []
  view := view
  cursor := 0

namespace World

open Matcher

variable {pattern : Pattern} {search : Bool} {program : Program} {text : List Char}
  {settings : Settings} {uses : List Use} {matcher after : Matcher} {context place : Nat}
  {view : Snapshot} {scene : Scene}

theorem rooted_ofRoot (world : World) (program : Program) (context place : Nat) (view : Snapshot) :
    world.Rooted (.ofRoot program context place view) := fun _ _ _ => ⟨context, place, rfl⟩

/-- The root of a compiled pattern returns to no other node. -/
theorem exit_root (compiled : pattern.compile search = .ok program) :
    program.exit? program.root = none := by
  obtain ⟨other, child, compiles, -, -, last, -⟩ := pattern.compile_spec search
  rw [compiled] at compiles
  cases compiles
  exact last

/-- A prepared run is about to enter the root. -/
theorem pursues_prepared (compiled : pattern.compile search = .ok program)
    (ready : prepare program.root text ((ofProgram program settings).used uses) = .ok () matcher)
    (view : Snapshot) :
    ∃ context place, (pattern.world program text).Pursues (.ofRoot program context place view)
      (.ofRoot context place 0 none []) matcher := by
  obtain ⟨other, child, compiles, found, -⟩ := pattern.compile_spec search
  rw [compiled] at compiles
  cases compiles
  have reusable := reusable_used program settings uses
  obtain ⟨context, place, prepared, preparing, acts⟩ := prepare_spec (pattern.world program text)
    reusable.program reusable.store.inOrder.wiped reusable.store.inOrder.idle program.root text rfl
  rw [ready] at preparing
  cases preparing
  exact ⟨context, place, .starting rfl ⟨child, search, found⟩ acts⟩

/-- Ticks stay in the activation of the root. -/
theorem Pursues.tick_root (compiled : pattern.compile search = .ok program)
    (pursues : (pattern.world program text).Pursues
      (.ofRoot program context place view) scene matcher)
    {goesOn : Bool} (ticks : Matcher.tick matcher = .ok goesOn after) :
    ∃ next,
      (pattern.world program text).Pursues (.ofRoot program context place view) next after ∧
      (matcher.direction = .forward →
        next.order = scene.order ∨ next.order = scene.order ++ [next.inner.position]) ∧
      (matcher.direction = .backward → next.order <+: scene.order) := by
  refine pursues.tick (Pattern.wired_compile compiled) (rooted_ofRoot _ _ _ _ _) (fun forward => ?_)
    ticks (fun _ => Nat.zero_le _)
  obtain ⟨id, signal, node, atNode, -⟩ := node_of_tick forward ticks
  rw [atNode]
  change some (id, signal) ≠ program.exit? program.root
  rw [exit_root compiled]
  exact Option.some_ne_none _

theorem pursues_between (compiled : pattern.compile search = .ok program)
    (between : matcher.Between program text) (view : Snapshot) :
    ∃ context place scene,
      (pattern.world program text).Pursues (.ofRoot program context place view) scene matcher := by
  induction between with
  | prepared ready =>
    obtain ⟨context, place, pursues⟩ := pursues_prepared compiled ready view
    exact ⟨context, place, _, pursues⟩
  | ticked _ ticks inductionHypothesis =>
    obtain ⟨context, place, scene, pursues⟩ := inductionHypothesis
    obtain ⟨next, still, -⟩ := pursues.tick_root compiled ticks
    exact ⟨context, place, next, still⟩
  | interrupted _ alike inductionHypothesis =>
    obtain ⟨context, place, scene, pursues⟩ := inductionHypothesis
    exact ⟨context, place, scene, pursues.alike alike⟩

end World

end Rewind
