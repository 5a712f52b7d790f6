/-
This file proves that lowering loses nothing but groups that only group and sequences inside of
sequences. The nodes of a compiled pattern form a tree: each but the last is named by exactly one
node, once, and returns to it with the signal for its place there. Read from the root, the tree says
what the pattern says.

Lowering hands on nodes that are not linked yet. What was added can be read back as soon as a
program keeps it, whatever comes to own these; so the parts are read before it is known what they
are part of.
-/

import Mathlib
import Rewind.Proofs.Program.Lowering
import Rewind.Proofs.Program.Wiring

namespace Rewind

/-! ### What patterns say -/

/-- An item of a pattern, apart from how it is written down. Bodies and branches are lists of
items. -/
inductive Item
  | char (value : Char)
  | any
  | anchor (anchor : Anchor)
  | charClass (set : CharClass)
  | group (kind : GroupKind) (body : List Item)
  | repetition (body : List Item) (min : Nat) (max : Option Nat) (lazily : Bool)
  | alternation (branches : List (List Item))

mutual

/-- The items of an expression. Groups that only group are dropped, and sequences inside of
sequences flattened; what is no sequence is a single item. -/
def Expr.items : Expr → List Item
  | .char value _ => [.char value]
  | .any _ => [.any]
  | .anchor anchor _ => [.anchor anchor]
  | .charClass set _ => [.charClass set]
  | .group .plain body _ => body.items
  | .group kind body _ => [.group kind body.items]
  | .repetition body min max lazily _ => [.repetition body.items min max lazily]
  | .sequence items _ => itemsOfAll items
  | .alternation branches _ => [.alternation (itemsOfEach branches)]

/-- The items of some expressions, one after the other. -/
def itemsOfAll : List Expr → List Item
  | [] => []
  | expr :: exprs => expr.items ++ itemsOfAll exprs

/-- The items of each of some expressions. -/
def itemsOfEach : List Expr → List (List Item)
  | [] => []
  | expr :: exprs => expr.items :: itemsOfEach exprs

end

/-- The items that a node stands for, if those of the nodes that it names are known. -/
def Node.items? (known : NodeId → Option (List Item)) : Node → Option (List Item)
  | .root child _ => known child
  | .text characters => some (characters.map .char)
  | .any => some [.any]
  | .charClass set => some [.charClass set]
  | .anchor place => some [.anchor place]
  | .sequence children => (children.mapM known).map List.flatten
  | .alternation children => (children.mapM known).map fun branches => [.alternation branches]
  | .repetition child min max lazily =>
    (known child).map fun body => [.repetition body min max lazily]
  | .atomic child => (known child).map fun body => [.group .atomic body]
  | .lookahead child negative =>
    (known child).map fun body => [.group (if negative then .notAhead else .ahead) body]
  | .capture name child => (known child).map fun body => [.group (.named name) body]

namespace Program

/-- Reads the node with an index and what it names back into items, down to some depth. -/
def itemsWithin (program : Program) : Nat → NodeId → Option (List Item)
  | 0, _ => none
  | depth + 1, id => (program.node? id).bind (Node.items? (program.itemsWithin depth))

/-- Reads a program back into items. No node of it lies deeper than there are nodes. -/
def items? (program : Program) : Option (List Item) := program.itemsWithin program.size program.root

end Program

/-! ### Trees -/

/-- The nodes that a node names. -/
def Node.children : Node → List NodeId
  | .root child _ | .repetition child _ _ _ | .atomic child | .lookahead child _
  | .capture _ child => [child]
  | .sequence children | .alternation children => children
  | .text _ | .any | .charClass _ | .anchor _ => []

/-- The signal that a node links the child in some place with. -/
def Node.signal : Node → Nat → Signal
  | .sequence _, index => .itemDone index
  | _, _ => .childDone

/-- A node is the parent of another, which returns to it. -/
def Program.Parent (program : Program) (child parent : NodeId) : Prop :=
  ∃ signal, program.link? child = some { parent := parent, signal := signal }

/-- The nodes of a program form a tree. Its root is the last node. -/
structure Program.Tree (program : Program) : Prop where
  last : program.root + 1 = program.size
  outermost : program.link? program.root = none
  /-- Every other node has a parent, which was added later and names it once. -/
  owned : ∀ id < program.root, ∃ parent node index,
    program.link? id = some { parent := parent, signal := node.signal index } ∧
      id < parent ∧ program.node? parent = some node ∧ node.children[index]? = some id ∧
        node.children.count id = 1
  /-- Every node that is named is there, and the node that names it is its parent. -/
  named : ∀ id node, program.node? id = some node →
    ∀ child ∈ node.children, child < program.root ∧ program.Parent child id

theorem Program.inside_of_node? {program : Program} {id : NodeId} {node : Node}
    (found : program.node? id = some node) : id < program.size := by
  obtain ⟨linked, present, -⟩ := Option.map_eq_some_iff.mp found
  exact (Array.getElem?_eq_some_iff.mp present).1

/-- Parents were added later, so they lead up to the last node. -/
theorem Program.Tree.leads {program : Program} (tree : program.Tree) {id : NodeId}
    (inside : id < program.size) : Relation.ReflTransGen program.Parent id program.root := by
  rw [← tree.last] at inside
  obtain ⟨above, sum⟩ := Nat.exists_eq_add_of_le (Nat.lt_succ_iff.mp inside)
  induction above using Nat.strong_induction_on generalizing id with
  | _ above inductionHypothesis =>
    obtain below | rfl := Nat.lt_succ_iff_lt_or_eq.mp inside
    · obtain ⟨parent, node, index, linked, later, found, -⟩ := tree.owned id below
      have within := inside_of_node? found
      rw [← tree.last] at within
      obtain ⟨rest, split⟩ := Nat.exists_eq_add_of_le (Nat.lt_succ_iff.mp within)
      have nearer : rest < above := Nat.lt_of_not_le fun more =>
        (Nat.add_lt_add_of_lt_of_le later more).ne (sum.symm.trans split)
      exact .head ⟨_, linked⟩ (inductionHypothesis rest nearer within split)
    · exact .refl

namespace Node

variable {node : Node}

theorem map_fst_links : node.links.map Prod.fst = node.children := by
  cases node with
  | sequence children => exact Expr.map_sequenceLinks children
  | alternation children =>
    unfold links doneLinks
    rw [List.map_map]
    exact List.map_id children
  | _ => rfl

theorem exists_of_mem_links {link : NodeId × Signal} (member : link ∈ node.links) :
    ∃ index, node.children[index]? = some link.1 ∧ link.2 = node.signal index := by
  have alike {children : List NodeId} (listed : link ∈ doneLinks children) :
      ∃ index : Nat, children[index]? = some link.1 ∧ link.2 = Signal.childDone := by
    obtain ⟨child, present, rfl⟩ := List.mem_map.mp listed
    obtain ⟨index, found⟩ := List.mem_iff_getElem?.mp present
    exact ⟨index, found, rfl⟩
  cases node with
  | sequence children =>
    obtain ⟨⟨child, index⟩, present, rfl⟩ := List.mem_map.mp member
    exact ⟨index, List.mk_mem_zipIdx_iff_getElem?.mp present, rfl⟩
  | text | any | charClass | anchor => cases member
  | _ => exact alike member

end Node

/-! ### What has been added -/

/-- The outermost nodes in a range are read back into lists of items, and each of the others is
owned by a node that names it. No node names another twice. -/
structure Program.Recovers (program : Program) (low high : NodeId) (roots : List NodeId)
    (read : List (List Item)) : Prop where
  reads : ∀ depth, high ≤ depth →
    List.Forall₂ (fun id items => program.itemsWithin depth id = some items) roots read
  owned : ∀ id, low ≤ id → id < high → id ∉ roots → ∃ link node,
    program.link? id = some link ∧ program.node? link.parent = some node ∧
      (id, link.signal) ∈ node.links
  once : ∀ id node, low ≤ id → id < high → program.node? id = some node → node.children.Nodup

/-- Nodes were added that every program that keeps them recovers. -/
structure Arena.Regains (before : Arena) (roots : List NodeId) (after : Arena)
    (read : List (List Item)) :
    Prop where
  grows : before.Grows roots after
  recovers : ∀ program : Program, program.Keeps before.size roots after →
    program.Recovers before.size after.size roots read

namespace Arena

variable {first second third : Arena} {roots more : List NodeId} {read others : List (List Item)}

theorem Regains.refl (arena : Arena) : arena.Regains [] arena [] :=
  ⟨.refl arena, fun _ _ =>
    ⟨fun _ _ => .nil, fun _ above below => absurd below (Nat.not_lt.mpr above),
    fun _ _ above below => absurd below (Nat.not_lt.mpr above)⟩⟩

/-- One node is read back into one list of items. -/
theorem Regains.length_one {root : NodeId} (regains : first.Regains [root] second read) :
    ∃ part, read = [part] := by
  have keeps : (second.toProgram root).Keeps first.size [root] second :=
    ⟨fun _ _ _ => rfl, fun _ _ _ _ => rfl⟩
  cases (regains.recovers _ keeps).reads _ (Nat.le_refl _) with
  | cons _ rest =>
    cases rest
    exact ⟨_, rfl⟩

theorem Regains.append (left : first.Regains roots second read)
    (right : second.Regains more third others) :
    first.Regains (roots ++ more) third (read ++ others) := by
  refine ⟨left.grows.append right.grows, fun program keeps => ?_⟩
  obtain ⟨keepsLeft, keepsRight⟩ := left.grows.keeps right.grows keeps
  have lower := left.recovers program keepsLeft
  have upper := right.recovers program keepsRight
  refine ⟨fun depth deeper => List.rel_append (lower.reads depth (right.grows.larger.trans deeper))
    (upper.reads depth deeper), fun id above below absent => ?_, fun id node above below => ?_⟩
  · rw [List.mem_append, not_or] at absent
    obtain older | newer := lt_or_ge id second.size
    · exact lower.owned id above older absent.1
    · exact upper.owned id newer below absent.2
  · obtain older | newer := lt_or_ge id second.size
    · exact lower.once id node above older
    · exact upper.once id node newer below

/-- A node that names all that was free is read back as it reads them. -/
theorem Regains.add (regains : first.Regains roots second read) (node : Node)
    (all : node.children = roots) (items : List Item)
    (reading : ∀ known : NodeId → Option (List Item),
      List.Forall₂ (fun child part => known child = some part) roots read →
        node.items? known = some items) :
    ∃ third, second.add node node.links = .ok (second.size, third) ∧
      first.Regains [second.size] third [items] := by
  have grows := regains.grows
  obtain ⟨third, adding, grown, kept⟩ := grows.add node node.links (Node.map_fst_links.trans all)
  have size : third.size = second.size + 1 := by
    obtain ⟨-, -, linked, -, -, size, -⟩ := add_eq_ok adding
    exact size
  refine ⟨third, adding, grown, fun program keeps => ?_⟩
  obtain ⟨keepsBelow, found, linked⟩ := kept program keeps
  have below := regains.recovers program keepsBelow
  refine ⟨fun depth deeper => .cons ?_ .nil, fun id above inside absent => ?_,
    fun id other above inside seen => ?_⟩
  · rw [size] at deeper
    obtain ⟨depth, rfl⟩ := Nat.exists_eq_add_one_of_ne_zero (Nat.ne_zero_of_lt deeper)
    rw [Program.itemsWithin, found]
    exact reading _ (below.reads depth (Nat.lt_succ_iff.mp deeper))
  · rw [List.mem_singleton] at absent
    rw [size] at inside
    have older : id < second.size := Nat.lt_of_le_of_ne (Nat.lt_succ_iff.mp inside) absent
    by_cases isRoot : id ∈ roots
    · rw [← all, ← Node.map_fst_links] at isRoot
      obtain ⟨link, member, rfl⟩ := List.mem_map.mp isRoot
      exact ⟨_, node, linked link member, found, member⟩
    · exact below.owned id above older isRoot
  · obtain older | rfl := Nat.lt_succ_iff_lt_or_eq.mp (size ▸ inside)
    · exact below.once id other above older seen
    · rw [found] at seen
      cases seen
      exact all ▸ grows.distinct

end Arena

/-! ### Lowering -/

/-- An expression is lowered to a node that is read back into its items. -/
def Expr.Regained (expr : Expr) (arena : Arena) : Prop :=
  ∃ id after, expr.lower arena = .ok (id, after) ∧ arena.Regains [id] after [expr.items]

/-- Items behind a run of characters are lowered to nodes that together are read back into all of
them. -/
def Expr.RegainedItems (items : List Expr) (arena : Arena) (run : List Char) : Prop :=
  ∃ children after read, lowerItems arena run items = .ok (children, after) ∧
    arena.Regains children after read ∧ read.flatten = run.map .char ++ itemsOfAll items

/-- Branches are lowered to nodes that are read back into the items of each. -/
def Expr.RegainedBranches (branches : List Expr) (arena : Arena) : Prop :=
  ∃ children after, lowerBranches arena branches = .ok (children, after) ∧
    arena.Regains children after (itemsOfEach branches)

namespace Expr

variable {arena : Arena}

theorem mapM_of_forall₂ {α β : Type} {find : α → Option β} {keys : List α} {values : List β}
    (found : List.Forall₂ (fun key value => find key = some value) keys values) :
    keys.mapM find = some values := by
  induction found with
  | nil => rfl
  | cons first _ inductionHypothesis =>
    rw [List.mapM_cons, first, inductionHypothesis]
    rfl

/-- A node without children. -/
theorem regained_leaf {expr : Expr} (node : Node) (childless : node.links = [])
    (lowers : expr.lower arena = arena.add node [])
    (reading : ∀ known, node.items? known = some expr.items) : expr.Regained arena := by
  have none : node.children = [] := by rw [← Node.map_fst_links, childless, List.map_nil]
  obtain ⟨after, adding, regains⟩ := (Arena.Regains.refl arena).add node none expr.items
    fun known _ => reading known
  rw [childless] at adding
  exact ⟨arena.size, after, lowers.trans adding, regains⟩

/-- A node with one child. -/
theorem regained_parent {expr body : Expr} (node : NodeId → Node) (regained : body.Regained arena)
    (links : ∀ child, (node child).links = doneLinks [child])
    (lowers : ∀ child after, body.lower arena = .ok (child, after) →
      expr.lower arena = after.add (node child) (doneLinks [child]))
    (reading : ∀ known child, known child = some body.items →
      (node child).items? known = some expr.items) : expr.Regained arena := by
  obtain ⟨child, between, lowering, regains⟩ := regained
  have one : (node child).children = [child] := by
    rw [← Node.map_fst_links, links]
    rfl
  obtain ⟨after, adding, regainsAll⟩ := regains.add (node child) one expr.items
    fun known read => reading known child (List.forall₂_cons.mp read).1
  rw [links] at adding
  exact ⟨between.size, after, (lowers child between lowering).trans adding, regainsAll⟩

/-- A run of characters is at most one node. -/
theorem regained_run (arena : Arena) (run : List Char) : ∃ children after read,
    arena.addRun run = .ok (children, after) ∧ arena.Regains children after read ∧
      read.flatten = run.map .char := by
  cases run with
  | nil => exact ⟨[], arena, [], rfl, .refl arena, rfl⟩
  | cons character run =>
    obtain ⟨after, adding, regains⟩ := (Arena.Regains.refl arena).add (.text (character :: run)) rfl
      ((character :: run).map .char) fun _ _ => rfl
    refine ⟨[arena.size], after, _, ?_, regains, List.flatten_singleton⟩
    unfold Arena.addRun
    change (arena.add (.text (character :: run)) [] >>= _) = _
    rw [show arena.add (.text (character :: run)) [] = .ok (arena.size, after) from adding]
    rfl

/-- A sequence of one child is that child. -/
theorem regained_sequence {items : List Expr} {span : Span}
    (regained : RegainedItems items arena []) :
    (Expr.sequence items span).Regained arena := by
  obtain ⟨children, between, read, lowering, regains, same⟩ := regained
  have lowers : (Expr.sequence items span).lower arena = between.addSequence children := by
    rw [Expr.lower, lowering]
    rfl
  have meaning : (Expr.sequence items span).items = read.flatten := by
    rw [same, Expr.items, List.map_nil, List.nil_append]
  by_cases alone : ∃ child, children = [child]
  · obtain ⟨child, rfl⟩ := alone
    obtain ⟨part, rfl⟩ := regains.length_one
    rw [List.flatten_singleton] at meaning
    exact ⟨child, between, lowers, meaning ▸ regains⟩
  · obtain ⟨after, adding, regainsAll⟩ := regains.add (.sequence children) rfl
      read.flatten fun known reads => by rw [Node.items?, mapM_of_forall₂ reads, Option.map_some]
    have added : between.addSequence children = .ok (between.size, after) := by
      rw [Arena.addSequence.eq_2 between children fun child same => alone ⟨child, same⟩]
      exact adding
    exact ⟨between.size, after, lowers.trans added, meaning ▸ regainsAll⟩

theorem regained_alternation {branches : List Expr} {span : Span}
    (regained : RegainedBranches branches arena) :
    (Expr.alternation branches span).Regained arena := by
  obtain ⟨children, between, lowering, regains⟩ := regained
  obtain ⟨after, adding, regainsAll⟩ := regains.add (.alternation children) rfl
    [.alternation (itemsOfEach branches)] fun known reads => by
      rw [Node.items?, mapM_of_forall₂ reads, Option.map_some]
  refine ⟨between.size, after, ?_, regainsAll⟩
  rw [Expr.lower, lowering]
  exact adding

/-- An item that is no literal character ends the run before it. -/
theorem regainedItems_cons {item : Expr} {items : List Expr} {run : List Char}
    (different : ∀ value span, item = .char value span → False)
    (regained : ∀ arena, item.Regained arena) (rest : ∀ arena, RegainedItems items arena []) :
    RegainedItems (item :: items) arena run := by
  obtain ⟨waiting, first, readRun, adding, regainsRun, sameRun⟩ := regained_run arena run
  obtain ⟨child, second, lowering, regainsItem⟩ := regained first
  obtain ⟨children, third, readRest, loweringRest, regainsRest, sameRest⟩ := rest second
  refine ⟨waiting ++ child :: children, third, readRun ++ item.items :: readRest, ?_,
    regainsRun.append (regainsItem.append regainsRest), ?_⟩
  · rw [lowerItems.eq_3 arena run item items different]
    simp only [bind, Except.bind, adding, lowering, loweringRest]
    rfl
  · rw [List.flatten_append, List.flatten_cons, sameRun, sameRest, List.map_nil, List.nil_append,
      itemsOfAll]

/-- A group is a node around its body, unless it is plain. -/
theorem regained_enclosing {kind : GroupKind} {body : Expr} {span : Span} (node : NodeId → Node)
    (regained : body.Regained arena) (different : kind ≠ .plain)
    (links : ∀ child, (node child).links = doneLinks [child])
    (lowers : ∀ child after, body.lower arena = .ok (child, after) →
      (Expr.group kind body span).lower arena = after.add (node child) (doneLinks [child]))
    (reading : ∀ known child,
      (node child).items? known = (known child).map fun inner => [.group kind inner]) :
    (Expr.group kind body span).Regained arena := by
  refine regained_parent node regained links lowers fun known child read => ?_
  rw [reading, read, Expr.items.eq_6 kind body span different, Option.map_some]

theorem regained_group {kind : GroupKind} {body : Expr} {span : Span}
    (regained : body.Regained arena) :
    (Expr.group kind body span).Regained arena := by
  cases kind with
  | plain =>
    obtain ⟨child, after, lowering, regains⟩ := regained
    refine ⟨child, after, ?_, by rwa [Expr.items]⟩
    rw [Expr.lower, lowering]
    rfl
  | named name =>
    refine regained_enclosing (.capture name) regained (fun same => nomatch same) (fun _ => rfl)
      (fun child after lowering => ?_) fun _ _ => rfl
    rw [Expr.lower, lowering]
    rfl
  | atomic =>
    refine regained_enclosing .atomic regained (fun same => nomatch same) (fun _ => rfl)
      (fun child after lowering => ?_) fun _ _ => rfl
    rw [Expr.lower, lowering]
    rfl
  | ahead =>
    refine regained_enclosing (.lookahead · false) regained
      (fun same => nomatch same) (fun _ => rfl) (fun child after lowering => ?_) fun _ _ => rfl
    rw [Expr.lower, lowering]
    rfl
  | notAhead =>
    refine regained_enclosing (.lookahead · true) regained (fun same => nomatch same) (fun _ => rfl)
      (fun child after lowering => ?_) fun _ _ => rfl
    rw [Expr.lower, lowering]
    rfl

theorem regained_repetition {body : Expr} {min : Nat} {max : Option Nat}
    {lazily : Bool} {span : Span}
    (regained : body.Regained arena) :
    (Expr.repetition body min max lazily span).Regained arena := by
  refine regained_parent (fun child => .repetition child min max lazily) regained (fun _ => rfl)
    (fun child after lowering => ?_) fun known child read => ?_
  · rw [Expr.lower, lowering]
    rfl
  · rw [Node.items?, read, Expr.items, Option.map_some]

mutual

theorem regained : ∀ (expr : Expr) (arena : Arena), expr.Regained arena
  | .char value span, arena => by
    refine regained_leaf (.text [value]) rfl (by rw [Expr.lower]) fun known => ?_
    rw [Expr.items]
    rfl
  | .any span, arena => by
    refine regained_leaf .any rfl (by rw [Expr.lower]) fun known => ?_
    rw [Expr.items]
    rfl
  | .anchor place span, arena => by
    refine regained_leaf (.anchor place) rfl (by rw [Expr.lower]) fun known => ?_
    rw [Expr.items]
    rfl
  | .charClass set span, arena => by
    refine regained_leaf (.charClass set) rfl (by rw [Expr.lower]) fun known => ?_
    rw [Expr.items]
    rfl
  | .group _ body _, arena => regained_group (regained body arena)
  | .repetition body _ _ _ _, arena => regained_repetition (regained body arena)
  | .sequence items _, arena => regained_sequence (regainedItems items arena [])
  | .alternation branches _, arena => regained_alternation (regainedBranches branches arena)

theorem regainedItems : ∀ (items : List Expr) (arena : Arena) (run : List Char),
    RegainedItems items arena run
  | [], arena, run => by
    obtain ⟨children, after, read, adding, regains, same⟩ := regained_run arena run
    refine ⟨children, after, read, by rw [lowerItems, adding], regains, ?_⟩
    rw [same, itemsOfAll, List.append_nil]
  | item :: items, arena, run => by
    by_cases literal : ∃ value span, item = .char value span
    · obtain ⟨value, span, rfl⟩ := literal
      obtain ⟨children, after, read, lowering, regains, same⟩ :=
        regainedItems items arena (run ++ [value])
      refine ⟨children, after, read, by rw [lowerItems, lowering], regains, ?_⟩
      rw [same, itemsOfAll, Expr.items, List.map_append, List.append_assoc]
      rfl
    · exact regainedItems_cons (fun value span same => literal ⟨value, span, same⟩) (regained item)
        fun arena => regainedItems items arena []

theorem regainedBranches : ∀ (branches : List Expr) (arena : Arena), RegainedBranches branches arena
  | [], arena => ⟨[], arena, by rw [lowerBranches], by rw [itemsOfEach]; exact .refl arena⟩
  | branch :: branches, arena => by
    obtain ⟨child, between, lowering, regains⟩ := regained branch arena
    obtain ⟨children, after, loweringRest, regainsRest⟩ := regainedBranches branches between
    refine ⟨child :: children, after, ?_, ?_⟩
    · rw [lowerBranches]
      simp only [bind, Except.bind, lowering, loweringRest]
      rfl
    · rw [itemsOfEach]
      exact regains.append regainsRest

end

end Expr

/-! ### Programs -/

/-- What is recovered up to a node without a parent is a tree. -/
theorem Program.Recovers.tree {program : Program} {read : List (List Item)} (wired : program.Wired)
    (last : program.root + 1 = program.size) {node : Node}
    (found : program.node? program.root = some node)
    (isRoot : node.isRoot = true)
    (recovers : program.Recovers 0 program.size [program.root] read) : program.Tree := by
  refine ⟨last, wired.outermost _ _ found isRoot, fun id below => ?_,
    fun id other seen child member => ?_⟩
  · obtain ⟨⟨parent, signal⟩, owner, linked, seen, member⟩ := recovers.owned id (Nat.zero_le _)
      (last ▸ Nat.lt_succ_of_lt below) fun same => below.ne (List.mem_singleton.mp same)
    obtain ⟨index, here, rfl⟩ := Node.exists_of_mem_links member
    have once := recovers.once parent owner (Nat.zero_le _) (inside_of_node? seen) seen
    exact ⟨parent, owner, index, linked, (wired.linked parent owner seen _ member).1, seen, here,
      List.count_eq_one_of_mem once (List.mem_of_getElem? here)⟩
  · rw [← Node.map_fst_links] at member
    obtain ⟨link, listed, rfl⟩ := List.mem_map.mp member
    obtain ⟨below, linked⟩ := wired.linked id other seen link listed
    have inside := inside_of_node? seen
    rw [← last] at inside
    exact ⟨below.trans_le (Nat.lt_succ_iff.mp inside), _, linked⟩

/-- Compiling a pattern always succeeds. The nodes of the program form a tree, which says what the
pattern says. -/
theorem compile_builds_tree (pattern : Pattern) (search : Bool) :
    ∃ program, pattern.compile search = .ok program ∧ program.Tree ∧
      (∀ id < program.size, Relation.ReflTransGen program.Parent id program.root) ∧
      (∃ child, program.node? program.root = some (.root child search)) ∧
      program.items? = some pattern.expr.items := by
  obtain ⟨child, between, lowering, regains⟩ := pattern.expr.regained #[]
  obtain ⟨after, adding, regainsAll⟩ := regains.add (.root child search) rfl pattern.expr.items
    fun known reads => (List.forall₂_cons.mp reads).1
  have compiled : pattern.compile search = .ok (after.toProgram between.size) := by
    unfold Pattern.compile
    rw [lowering]
    change (between.add (.root child search) (doneLinks [child]) >>= _) = _
    rw [show between.add (.root child search) (doneLinks [child]) = .ok (between.size, after)
      from adding]
    rfl
  obtain ⟨-, isLast, -, -, -, size, -⟩ := Arena.add_eq_ok adding
  have found : (after.toProgram between.size).node? between.size = some (.root child search) := by
    change after[between.size]?.map LinkedNode.node = _
    rw [isLast]
    rfl
  have recovers := regainsAll.recovers (after.toProgram between.size)
    ⟨fun _ _ _ => rfl, fun _ _ _ _ => rfl⟩
  have tree := recovers.tree (Pattern.wired_compile compiled) size.symm found rfl
  exact ⟨_, compiled, tree, fun id inside => tree.leads inside, ⟨child, found⟩,
    (List.forall₂_cons.mp (recovers.reads _ (Nat.le_refl _))).1⟩

end Rewind
