/-
This file proves that lowering keeps the meaning of expressions. Lowering never fails, and in every
program that keeps the nodes it added, the outermost of them answers with the ways of the
expression.
-/

import Mathlib
import Rewind.Proofs.Matcher.Repetition
import Rewind.Proofs.Program.Linking

namespace Rewind

/-- Where a repetition may need more iterations than can be counted, that is an excuse. -/
def World.Admits (world : World) (mins : List Nat) : Prop :=
  ∀ min ∈ mins, 0xffffffff ≤ min + world.text.size → world.loose

/-- An expression is lowered to a node that answers with its ways. -/
def Expr.Lowers (expr : Expr) (arena : Arena) : Prop :=
  ∃ id after, expr.lower arena = .ok (id, after) ∧ arena.Grows [id] after ∧
    ∀ world : World, world.program.Keeps arena.size [id] after → world.Admits expr.mins →
      world.Computes id (expr.ways world.text)

/-- Items behind a run of characters are lowered to nodes that answer in order. -/
def Expr.LowersItems (items : List Expr) (arena : Arena) (run : List Char) : Prop :=
  ∃ children after, lowerItems arena run items = .ok (children, after) ∧
    arena.Grows children after ∧
    ∀ world : World, world.program.Keeps arena.size children after →
      world.Admits (minsOfAll items) →
        ∃ parts, List.Forall₂ world.Computes children parts ∧
          Ways.inOrder parts = (Ways.literal world.text run).andThen (waysOfItems world.text items)

/-- Branches are lowered to nodes that answer one after the other. -/
def Expr.LowersBranches (branches : List Expr) (arena : Arena) : Prop :=
  ∃ children after, lowerBranches arena branches = .ok (children, after) ∧
    arena.Grows children after ∧
    ∀ world : World, world.program.Keeps arena.size children after →
      world.Admits (minsOfAll branches) →
        ∃ parts, List.Forall₂ world.Computes children parts ∧
          Ways.oneOf parts = waysOfBranches world.text branches

namespace Expr

variable {arena after : Arena} {child : NodeId}

theorem exit_of_link {program : Program} {link : Link} (linked : program.link? child = some link) :
    program.exit? child = some (link.parent, link.signal) := by
  unfold Program.exit?
  rw [linked]
  rfl

/-! ### Nodes -/

/-- A node without children. -/
theorem lowers_leaf {expr : Expr} (node : Node) (lowers : expr.lower arena = arena.add node [])
    (computes : ∀ (world : World) (id : NodeId), world.program.node? id = some node →
      world.Computes id (expr.ways world.text)) : expr.Lowers arena := by
  obtain ⟨after, adding, grows, kept⟩ := (Arena.Grows.refl arena).add node [] rfl
  refine ⟨arena.size, after, lowers.trans adding, grows, fun world keeps _ => ?_⟩
  exact computes world arena.size (kept world.program keeps).2.1

/-- A node with one child. -/
theorem lowers_parent {expr body : Expr} (node : NodeId → Node) (lowered : body.Lowers arena)
    (lowers : ∀ child after, body.lower arena = .ok (child, after) →
      expr.lower arena = after.add (node child) (doneLinks [child]))
    (mins : expr.mins ⊇ body.mins)
    (computes : ∀ (world : World) (id child : NodeId), world.Admits expr.mins →
      world.program.node? id = some (node child) →
      world.program.exit? child = some (id, .childDone) →
      world.Computes child (body.ways world.text) → world.Computes id (expr.ways world.text)) :
    expr.Lowers arena := by
  obtain ⟨child, between, lowering, grows, computed⟩ := lowered
  obtain ⟨after, adding, grown, kept⟩ := grows.add (node child) (doneLinks [child]) rfl
  refine ⟨between.size, after, (lowers child between lowering).trans adding, grown,
    fun world keeps admits => ?_⟩
  obtain ⟨keepsBody, found, linked⟩ := kept world.program keeps
  refine computes world between.size child admits found
    (exit_of_link (linked (child, .childDone) List.mem_cons_self)) ?_
  exact computed world keepsBody fun min member => admits min (mins member)

/-- A run of characters is at most one node. -/
theorem lowers_run (arena : Arena) (run : List Char) :
    ∃ children after, arena.addRun run = .ok (children, after) ∧ arena.Grows children after ∧
      ∀ world : World, world.program.Keeps arena.size children after →
        ∃ parts, List.Forall₂ world.Computes children parts ∧
          Ways.inOrder parts = Ways.literal world.text run := by
  cases run with
  | nil =>
    refine ⟨[], arena, rfl, .refl arena, fun world _ => ⟨[], .nil, ?_⟩⟩
    rw [Ways.literal_nil]
    rfl
  | cons character run =>
    obtain ⟨after, adding, grows, kept⟩ :=
      (Arena.Grows.refl arena).add (.text (character :: run)) [] rfl
    refine ⟨[arena.size], after, ?_, grows, fun world keeps => ?_⟩
    · unfold Arena.addRun
      rw [adding]
      rfl
    · obtain ⟨-, found, -⟩ := kept world.program keeps
      refine ⟨[Ways.literal world.text (character :: run)],
        .cons (World.computes_text found) .nil, ?_⟩
      exact Ways.andThen_bare _

theorem map_sequenceLinks (children : List NodeId) :
    (sequenceLinks children).map Prod.fst = children := by
  unfold sequenceLinks
  rw [List.map_map]
  exact List.zipIdx_map_fst 0 children

theorem mem_sequenceLinks {children : List NodeId} {index : Nat}
    (found : children[index]? = some child) :
    (child, Signal.itemDone index) ∈ sequenceLinks children :=
  List.mem_map.mpr ⟨(child, index), List.mk_mem_zipIdx_iff_getElem?.mpr found, rfl⟩

/-- A sequence of one child is that child. -/
theorem lowers_sequence {items : List Expr} {span : Span} (lowered : LowersItems items arena []) :
    (Expr.sequence items span).Lowers arena := by
  obtain ⟨children, between, lowering, grows, computed⟩ := lowered
  have lowers : (Expr.sequence items span).lower arena = between.addSequence children := by
    rw [Expr.lower, lowering]
    rfl
  have meaning : ∀ world : World, (Expr.sequence items span).ways world.text =
      (Ways.literal world.text []).andThen (waysOfItems world.text items) := by
    intro world
    rw [Ways.literal_nil, Ways.bare_andThen, Expr.ways]
  by_cases alone : ∃ child, children = [child]
  · obtain ⟨child, rfl⟩ := alone
    refine ⟨child, between, lowers, grows, fun world keeps admits => ?_⟩
    obtain ⟨parts, computes, same⟩ := computed world keeps admits
    rw [meaning, ← same]
    cases computes with
    | cons computes rest =>
      cases rest
      rw [Ways.inOrder, Ways.inOrder, Ways.andThen_bare]
      exact computes
  · obtain ⟨after, adding, grown, kept⟩ := grows.add (.sequence children)
      (sequenceLinks children) (map_sequenceLinks children)
    have added : between.addSequence children = .ok (between.size, after) := by
      rw [Arena.addSequence.eq_2 between children fun child same => alone ⟨child, same⟩]
      exact adding
    refine ⟨between.size, after, lowers.trans added, grown, fun world keeps admits => ?_⟩
    obtain ⟨keepsItems, found, linked⟩ := kept world.program keeps
    obtain ⟨parts, computes, same⟩ := computed world keepsItems admits
    rw [meaning, ← same]
    exact World.computes_sequence found computes fun index child here =>
      exit_of_link (linked _ (mem_sequenceLinks here))

theorem lowers_alternation {branches : List Expr} {span : Span}
    (lowered : LowersBranches branches arena) :
    (Expr.alternation branches span).Lowers arena := by
  obtain ⟨children, between, lowering, grows, computed⟩ := lowered
  have all : (doneLinks children).map Prod.fst = children := by
    unfold doneLinks
    rw [List.map_map]
    exact List.map_id children
  obtain ⟨after, adding, grown, kept⟩ :=
    grows.add (.alternation children) (doneLinks children) all
  refine ⟨between.size, after, ?_, grown, fun world keeps admits => ?_⟩
  · rw [Expr.lower, lowering]
    exact adding
  · obtain ⟨keepsBranches, found, linked⟩ := kept world.program keeps
    obtain ⟨parts, computes, same⟩ := computed world keepsBranches admits
    rw [Expr.ways, ← same]
    exact World.computes_alternation found computes fun child member =>
      exit_of_link (linked (child, .childDone) (List.mem_map_of_mem member))

/-! ### Expressions -/

theorem admits_append {world : World} {first second : List Nat}
    (admits : world.Admits (first ++ second)) : world.Admits first ∧ world.Admits second :=
  ⟨fun min member => admits min (List.mem_append_left _ member),
    fun min member => admits min (List.mem_append_right _ member)⟩

/-- An item that is no literal character ends the run before it. -/
theorem lowersItems_cons {item : Expr} {items : List Expr} {run : List Char}
    (different : ∀ value span, item = .char value span → False)
    (lowered : ∀ arena, item.Lowers arena) (rest : ∀ arena, LowersItems items arena []) :
    LowersItems (item :: items) arena run := by
  obtain ⟨waiting, first, adding, growsRun, computedRun⟩ := lowers_run arena run
  obtain ⟨child, second, lowering, growsItem, computedItem⟩ := lowered first
  obtain ⟨children, third, loweringRest, growsRest, computedRest⟩ := rest second
  have growsBoth := growsItem.append growsRest
  refine ⟨waiting ++ child :: children, third, ?_, growsRun.append growsBoth,
    fun world keeps admits => ?_⟩
  · rw [lowerItems.eq_3 arena run item items different]
    simp only [bind, Except.bind, adding, lowering, loweringRest]
    rfl
  · obtain ⟨admitsItem, admitsRest⟩ := admits_append admits
    obtain ⟨keepsRun, keepsBoth⟩ := growsRun.keeps growsBoth keeps
    obtain ⟨keepsItem, keepsRest⟩ := growsItem.keeps growsRest keepsBoth
    obtain ⟨partsRun, computesRun, sameRun⟩ := computedRun world keepsRun
    obtain ⟨partsRest, computesRest, sameRest⟩ := computedRest world keepsRest admitsRest
    refine ⟨partsRun ++ item.ways world.text :: partsRest,
      List.rel_append computesRun
        (.cons (computedItem world keepsItem admitsItem) computesRest), ?_⟩
    rw [Ways.inOrder_append, sameRun, Ways.inOrder, sameRest, Ways.literal_nil, Ways.bare_andThen,
      waysOfItems]

/-- A group is a node around its body, unless it is plain. -/
theorem lowers_enclosing {kind : GroupKind} {body : Expr} {span : Span} (node : NodeId → Node)
    (lowered : body.Lowers arena)
    (lowers : ∀ child after, body.lower arena = .ok (child, after) →
      (Expr.group kind body span).lower arena = after.add (node child) (doneLinks [child]))
    (computes : ∀ (world : World) (id child : NodeId),
      world.program.node? id = some (node child) →
      world.program.exit? child = some (id, .childDone) →
      world.Computes child (body.ways world.text) →
        world.Computes id (Ways.group world.text kind (body.ways world.text))) :
    (Expr.group kind body span).Lowers arena := by
  have mins : (Expr.group kind body span).mins = body.mins := by rw [Expr.mins]
  refine lowers_parent node lowered lowers (mins ▸ List.Subset.refl _)
    fun world id child _ found linked computed => ?_
  rw [Expr.ways]
  exact computes world id child found linked computed

theorem lowers_group {kind : GroupKind} {body : Expr} {span : Span} (lowered : body.Lowers arena) :
    (Expr.group kind body span).Lowers arena := by
  cases kind with
  | plain =>
    obtain ⟨child, after, lowering, grows, computed⟩ := lowered
    refine ⟨child, after, ?_, grows, fun world keeps admits => ?_⟩
    · rw [Expr.lower, lowering]
      rfl
    · rw [Expr.mins] at admits
      rw [Expr.ways]
      exact computed world keeps admits
  | named name =>
    refine lowers_enclosing (.capture name) lowered (fun child after lowering => ?_)
      fun world id child found linked computes => World.computes_capture found computes linked
    rw [Expr.lower, lowering]
    rfl
  | atomic =>
    refine lowers_enclosing .atomic lowered (fun child after lowering => ?_)
      fun world id child found linked computes => World.computes_atomic found computes linked
    rw [Expr.lower, lowering]
    rfl
  | ahead =>
    refine lowers_enclosing (.lookahead · false) lowered (fun child after lowering => ?_)
      fun world id child found linked computes => World.computes_ahead found computes linked
    rw [Expr.lower, lowering]
    rfl
  | notAhead =>
    refine lowers_enclosing (.lookahead · true) lowered (fun child after lowering => ?_)
      fun world id child found linked computes => World.computes_notAhead found computes linked
    rw [Expr.lower, lowering]
    rfl

theorem lowers_repetition {body : Expr} {min : Nat} {max : Option Nat} {lazily : Bool} {span : Span}
    (lowered : body.Lowers arena) :
    (Expr.repetition body min max lazily span).Lowers arena := by
  refine lowers_parent (fun child => .repetition child min max lazily) lowered
    (fun child after lowering => ?_) ?_ fun world id child admits found linked computes => ?_
  · rw [Expr.lower, lowering]
    rfl
  · rw [Expr.mins]
    exact List.subset_cons_self _ _
  · rw [Expr.mins] at admits
    rw [Expr.ways]
    exact World.computes_repetition found computes (body.inside_ways world.text) linked
      (admits min List.mem_cons_self)

mutual

/-- Lowering succeeds and keeps the meaning. -/
theorem lowers : ∀ (expr : Expr) (arena : Arena), expr.Lowers arena
  | .char value span, arena => by
    refine lowers_leaf (.text [value]) (by rw [Expr.lower]) fun world id found => ?_
    rw [Expr.ways, ← Ways.literal_singleton]
    exact World.computes_text found
  | .any span, arena => by
    refine lowers_leaf .any (by rw [Expr.lower]) fun world id found => ?_
    rw [Expr.ways]
    exact World.computes_character found rfl
  | .anchor place span, arena => by
    refine lowers_leaf (.anchor place) (by rw [Expr.lower]) fun world id found => ?_
    rw [Expr.ways]
    exact World.computes_anchor found
  | .charClass set span, arena => by
    refine lowers_leaf (.charClass set) (by rw [Expr.lower]) fun world id found => ?_
    rw [Expr.ways]
    exact World.computes_character found rfl
  | .group _ body _, arena => lowers_group (lowers body arena)
  | .repetition body _ _ _ _, arena => lowers_repetition (lowers body arena)
  | .sequence items _, arena => lowers_sequence (lowersItems items arena [])
  | .alternation branches _, arena => lowers_alternation (lowersBranches branches arena)

theorem lowersItems : ∀ (items : List Expr) (arena : Arena) (run : List Char),
    LowersItems items arena run
  | [], arena, run => by
    obtain ⟨children, after, adding, grows, computed⟩ := lowers_run arena run
    refine ⟨children, after, by rw [lowerItems, adding], grows, fun world keeps _ => ?_⟩
    obtain ⟨parts, computes, same⟩ := computed world keeps
    refine ⟨parts, computes, ?_⟩
    rw [same, waysOfItems, Ways.andThen_bare]
  | item :: items, arena, run => by
    by_cases literal : ∃ value span, item = .char value span
    · obtain ⟨value, span, rfl⟩ := literal
      obtain ⟨children, after, lowering, grows, computed⟩ :=
        lowersItems items arena (run ++ [value])
      refine ⟨children, after, by rw [lowerItems, lowering], grows, fun world keeps admits => ?_⟩
      obtain ⟨parts, computes, same⟩ := computed world keeps (admits_append admits).2
      refine ⟨parts, computes, ?_⟩
      rw [same, Ways.literal_append, Ways.andThen_assoc, waysOfItems, Expr.ways]
    · exact lowersItems_cons (fun value span same => literal ⟨value, span, same⟩) (lowers item)
        fun arena => lowersItems items arena []

theorem lowersBranches : ∀ (branches : List Expr) (arena : Arena), LowersBranches branches arena
  | [], arena => ⟨[], arena, by rw [lowerBranches], .refl arena, fun world _ _ =>
      ⟨[], .nil, by rw [waysOfBranches, Ways.oneOf]⟩⟩
  | branch :: branches, arena => by
    obtain ⟨child, between, lowering, grows, computed⟩ := lowers branch arena
    obtain ⟨children, after, loweringRest, growsRest, computedRest⟩ :=
      lowersBranches branches between
    refine ⟨child :: children, after, ?_, grows.append growsRest, fun world keeps admits => ?_⟩
    · rw [lowerBranches]
      simp only [bind, Except.bind, lowering, loweringRest]
      rfl
    · obtain ⟨admitsBranch, admitsRest⟩ := admits_append admits
      obtain ⟨keepsBranch, keepsRest⟩ := grows.keeps growsRest keeps
      obtain ⟨parts, computes, same⟩ := computedRest world keepsRest admitsRest
      refine ⟨branch.ways world.text :: parts,
        .cons (computed world keepsBranch admitsBranch) computes, ?_⟩
      rw [waysOfBranches, Ways.oneOf, same]

end

end Expr

end Rewind
