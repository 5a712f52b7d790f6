/-
This file says what patterns mean, without programs and stores. At every cursor an expression has a
list of ways to match, the preferred one first; a way says where the match stops and which captures
it makes. Matching a pattern is taking the first way at the first cursor where there is one.
-/

import Mathlib
import Rewind.Matcher.MatchTree
import Rewind.Program.Lowering

namespace Rewind

/-- A way to match. -/
structure Way where
  stop : Nat
  captures : List MatchTree

namespace Way

/-- A way that goes on where another one stopped. -/
def followedBy (first second : Way) : Way :=
  { stop := second.stop, captures := first.captures ++ second.captures }

/-- A way that captures nothing. -/
def bare (stop : Nat) : Way := { stop := stop, captures := [] }

@[simp] theorem bare_stop (stop : Nat) : (bare stop).stop = stop := rfl

@[simp] theorem followedBy_stop (first second : Way) :
    (first.followedBy second).stop = second.stop := rfl

@[simp] theorem bare_followedBy (stop : Nat) (way : Way) : (bare stop).followedBy way = way := rfl

@[simp] theorem followedBy_bare (way : Way) : way.followedBy (bare way.stop) = way := by
  unfold followedBy bare
  rw [List.append_nil]

theorem followedBy_assoc (first second third : Way) :
    (first.followedBy second).followedBy third = first.followedBy (second.followedBy third) := by
  simp only [followedBy, List.append_assoc]

end Way

/-- The ways to match something, by the cursor where the match starts. -/
abbrev Ways := Nat → List Way

namespace Ways

/-- One thing after the other. The first one's preferences come first. -/
def andThen (first second : Ways) : Ways := fun start =>
  (first start).flatMap fun way => (second way.stop).map way.followedBy

/-- A character that passes a test. -/
def character (text : Array Char) (accepts : Char → Bool) : Ways := fun start =>
  if text[start]?.any accepts then [.bare (start + 1)] else []

/-- A run of literal characters. -/
def literal (text : Array Char) (characters : List Char) : Ways := fun start =>
  if (text.extract start (start + characters.length)).toList = characters then
    [.bare (start + characters.length)]
  else []

/-- Some things one after the other. -/
def inOrder : List Ways → Ways
  | [] => fun start => [.bare start]
  | first :: rest => first.andThen (inOrder rest)

/-- One of some things; earlier ones are preferred. -/
def oneOf : List Ways → Ways
  | [] => fun _ => []
  | first :: rest => fun start => first start ++ oneOf rest start

/-- An end of the text. -/
def anchor (text : Array Char) : Anchor → Ways
  | .start => fun start => if start = 0 then [.bare start] else []
  | .stop => fun start => if text.size ≤ start then [.bare start] else []

/-- A capture of the text between two cursors. -/
def captured (text : Array Char) (name : String) (start : Nat) (way : Way) : MatchTree :=
  { name := name
    start := start
    stop := way.stop
    text := String.ofList (text.extract start way.stop).toList
    children := way.captures }

/-- What a group makes of the ways of its body. -/
def group (text : Array Char) (kind : GroupKind) (body : Ways) : Ways := fun start =>
  match kind with
  | .plain => body start
  | .named name => (body start).map fun way =>
      { stop := way.stop, captures := [captured text name start way] }
  | .atomic => (body start).take 1
  | .ahead => ((body start).take 1).map fun way => { way with stop := start }
  | .notAhead => if (body start).isEmpty then [.bare start] else []

/-- The ways to repeat something after `count` iterations. With fewer than the least number of
iterations there has to be another one, with the largest number there is none, and otherwise both
are possible: another iteration is preferred unless the repetition is lazy. An iteration that
consumes nothing is the last one, once there are enough.

An iteration does not go backwards and does not leave the text, so the repetition comes to an
end. -/
def repeated (size : Nat) (body : Ways) (min : Nat) (max : Option Nat) (lazily : Bool)
    (count start : Nat) : List Way :=
  let stopping := [.bare start]
  let iterating := (body start).flatMap fun way =>
    if _idle : min ≤ count + 1 ∧ way.stop = start then [way]
    else if _inside : start ≤ way.stop ∧ way.stop ≤ size then
      (repeated size body min max lazily (count + 1) way.stop).map way.followedBy
    else []
  if count < min then iterating
  else if max.any fun max => max ≤ count then stopping
  else if lazily then stopping ++ iterating
  else iterating ++ stopping
termination_by (min - count) + (size - start)
decreasing_by omega

end Ways

mutual

/-- The ways to match an expression, the preferred ones first. -/
def Expr.ways (text : Array Char) : Expr → Ways
  | .char value _ => Ways.character text (· == value)
  | .any _ => Ways.character text (· != '\n')
  | .anchor anchor _ => Ways.anchor text anchor
  | .charClass set _ => Ways.character text set.contains
  | .group kind body _ => Ways.group text kind (body.ways text)
  | .repetition body min max lazily _ =>
    Ways.repeated text.size (body.ways text) min max lazily 0
  | .sequence items _ => waysOfItems text items
  | .alternation branches _ => waysOfBranches text branches

/-- The ways to match expressions one after the other. -/
def waysOfItems (text : Array Char) : List Expr → Ways
  | [] => fun start => [.bare start]
  | item :: items => Ways.andThen (item.ways text) (waysOfItems text items)

/-- The ways to match one of some expressions; earlier ones are preferred. -/
def waysOfBranches (text : Array Char) : List Expr → Ways
  | [] => fun _ => []
  | branch :: branches => fun start => branch.ways text start ++ waysOfBranches text branches start

end

mutual

/-- The least numbers of iterations that the repetitions of an expression ask for. -/
def Expr.mins : Expr → List Nat
  | .char _ _ | .any _ | .anchor _ _ | .charClass _ _ => []
  | .group _ body _ => body.mins
  | .repetition body min _ _ _ => min :: body.mins
  | .sequence items _ => minsOfAll items
  | .alternation branches _ => minsOfAll branches

/-- The least numbers of iterations in some expressions. -/
def minsOfAll : List Expr → List Nat
  | [] => []
  | expr :: exprs => expr.mins ++ minsOfAll exprs

end

/-- The first match of a pattern: at the start of the text, or when searching at the first cursor
where there is one. -/
def Pattern.firstMatch (pattern : Pattern) (search : Bool) (text : List Char) : Option MatchTree :=
  let starts := if search then List.range (text.length + 1) else [0]
  starts.findSome? fun start =>
    (pattern.expr.ways text.toArray start).head?.map (Ways.captured text.toArray "root" start)

/-! ### Sequences of ways -/

namespace Ways

theorem bare_andThen (ways : Ways) : (andThen (fun start => [.bare start]) ways) = ways := by
  funext start
  simp only [andThen, List.flatMap_cons, List.flatMap_nil, List.append_nil, Way.bare_stop,
    funext (Way.bare_followedBy start), List.map_id']

theorem andThen_bare (ways : Ways) : ways.andThen (fun start => [.bare start]) = ways := by
  funext start
  simp only [andThen, List.map_cons, List.map_nil, Way.followedBy_bare, List.flatMap_singleton']

theorem andThen_assoc (first second third : Ways) :
    (first.andThen second).andThen third = first.andThen (second.andThen third) := by
  funext start
  simp only [andThen, List.flatMap_assoc, List.flatMap_map, List.map_flatMap, List.map_map,
    Way.followedBy_stop]
  refine List.flatMap_congr fun way _ => List.flatMap_congr fun next _ => ?_
  refine List.map_congr_left fun last _ => ?_
  exact Way.followedBy_assoc way next last

theorem inOrder_append (first second : List Ways) :
    inOrder (first ++ second) = (inOrder first).andThen (inOrder second) := by
  induction first with
  | nil => exact (bare_andThen _).symm
  | cons ways first inductionHypothesis =>
    rw [List.cons_append, inOrder, inOrder, inductionHypothesis, andThen_assoc]

theorem literal_nil (text : Array Char) : literal text [] = fun start => [.bare start] := by
  funext start
  simp [literal]

theorem extract_eq_append_iff (text : Array Char) (start : Nat) (run : List Char)
    (character : Char) :
    (text.extract start (start + (run ++ [character]).length)).toList = run ++ [character] ↔
      (text.extract start (start + run.length)).toList = run ∧
        text[start + run.length]? = some character := by
  have taken : ∀ count, (text.extract start (start + count)).toList =
      (text.toList.drop start).take count := by
    intro count
    rw [Array.toList_extract, List.extract_eq_take_drop, Nat.add_sub_cancel_left]
  have next : text[start + run.length]? = (text.toList.drop start)[run.length]? := by
    rw [List.getElem?_drop, Array.getElem?_toList]
  rw [taken, taken, next, List.length_append, List.length_singleton, List.take_add_one]
  cases found : (text.toList.drop start)[run.length]? with
  | none =>
    refine iff_of_false (fun same => ?_) fun both => nomatch both.2
    have length := congrArg List.length same
    rw [Option.toList_none, List.append_nil, List.length_take, List.length_append,
      List.length_singleton] at length
    omega
  | some other =>
    rw [Option.toList_some, Option.some.injEq]
    constructor
    · intro same
      obtain ⟨before, last⟩ := List.append_inj' same rfl
      exact ⟨before, List.singleton_inj.mp last⟩
    · rintro ⟨before, rfl⟩
      rw [before]

/-- A run of literal characters is matched character by character. -/
theorem literal_append (text : Array Char) (run : List Char) (character : Char) :
    literal text (run ++ [character]) =
      (literal text run).andThen (Ways.character text (· == character)) := by
  funext start
  simp only [literal, andThen, Ways.character, extract_eq_append_iff]
  by_cases before : (text.extract start (start + run.length)).toList = run
  · have accepted : (text[start + run.length]?.any fun other => other == character) = true ↔
        text[start + run.length]? = some character := by
      cases text[start + run.length]? with
      | none => exact iff_of_false Bool.false_ne_true fun same => nomatch same
      | some other => rw [Option.any_some, beq_iff_eq, Option.some.injEq]
    simp only [before, true_and, if_true, List.flatMap_cons, List.flatMap_nil, List.append_nil,
      Way.bare_stop, accepted, List.length_append, List.length_singleton]
    split
    · rfl
    · rfl
  · simp only [before, false_and, if_false, List.flatMap_nil]

theorem literal_singleton (text : Array Char) (character : Char) :
    literal text [character] = Ways.character text (· == character) := by
  rw [← List.nil_append [character], literal_append, literal_nil, bare_andThen]

end Ways

/-! ### Ways stay inside of the text -/

/-- No way goes backwards or leaves the text. -/
def Ways.Inside (size : Nat) (ways : Ways) : Prop :=
  ∀ start ≤ size, ∀ way ∈ ways start, start ≤ way.stop ∧ way.stop ≤ size

namespace Ways

variable {size : Nat} {text : Array Char}

theorem inside_character (text : Array Char) (accepts : Char → Bool) :
    Inside text.size (character text accepts) := by
  intro start _ way member
  unfold character at member
  split at member
  · rename_i accepted
    cases List.mem_singleton.mp member
    cases found : text[start]? with
    | none =>
      rw [found] at accepted
      cases accepted
    | some character =>
      exact ⟨Nat.le_succ start, (Array.getElem?_eq_some_iff.mp found).1⟩
  · cases member

theorem inside_bare : Inside size fun start => [.bare start] := by
  intro start inside way member
  cases List.mem_singleton.mp member
  exact ⟨Nat.le_refl start, inside⟩

theorem inside_andThen {first second : Ways} (inside : Inside size first)
    (insideNext : Inside size second) : Inside size (first.andThen second) := by
  intro start bounded way member
  obtain ⟨before, found, rest⟩ := List.mem_flatMap.mp member
  obtain ⟨next, foundNext, rfl⟩ := List.mem_map.mp rest
  obtain ⟨after, within⟩ := inside start bounded before found
  obtain ⟨afterNext, withinNext⟩ := insideNext before.stop within next foundNext
  exact ⟨Nat.le_trans after afterNext, withinNext⟩

theorem inside_anchor (text : Array Char) (place : Anchor) : Inside size (anchor text place) := by
  intro start bounded way member
  cases place with
  | start =>
    simp only [anchor] at member
    split at member
    · exact inside_bare start bounded way member
    · cases member
  | stop =>
    simp only [anchor] at member
    split at member
    · exact inside_bare start bounded way member
    · cases member

theorem inside_group {body : Ways} (inside : Inside size body) (text : Array Char)
    (kind : GroupKind) : Inside size (group text kind body) := by
  intro start bounded way member
  cases kind with
  | plain => exact inside start bounded way member
  | named name =>
    obtain ⟨before, found, rfl⟩ := List.mem_map.mp member
    exact inside start bounded before found
  | atomic => exact inside start bounded way (List.mem_of_mem_take member)
  | ahead =>
    obtain ⟨before, found, rfl⟩ := List.mem_map.mp member
    exact ⟨Nat.le_refl start, bounded⟩
  | notAhead =>
    simp only [group] at member
    split at member
    · exact inside_bare start bounded way member
    · cases member

/-- A repetition without what is left out for the sake of coming to an end. -/
theorem repeated_eq {body : Ways} (inside : Inside size body) (min : Nat) (max : Option Nat)
    (lazily : Bool) (count start : Nat) (bounded : start ≤ size) :
    repeated size body min max lazily count start =
      (let stopping := [.bare start]
      let iterating := (body start).flatMap fun way =>
        if min ≤ count + 1 ∧ way.stop = start then [way]
        else (repeated size body min max lazily (count + 1) way.stop).map way.followedBy
      if count < min then iterating
      else if max.any fun max => max ≤ count then stopping
      else if lazily then stopping ++ iterating
      else iterating ++ stopping) := by
  have same : ((body start).flatMap fun way =>
      if _idle : min ≤ count + 1 ∧ way.stop = start then [way]
      else if _inside : start ≤ way.stop ∧ way.stop ≤ size then
        (repeated size body min max lazily (count + 1) way.stop).map way.followedBy
      else []) = (body start).flatMap fun way =>
      if min ≤ count + 1 ∧ way.stop = start then [way]
      else (repeated size body min max lazily (count + 1) way.stop).map way.followedBy := by
    refine List.flatMap_congr fun way member => ?_
    by_cases idle : min ≤ count + 1 ∧ way.stop = start
    · rw [dif_pos idle, if_pos idle]
    · rw [dif_neg idle, if_neg idle, dif_pos (inside start bounded way member)]
  rw [repeated, same]

theorem inside_repeated {body : Ways} (inside : Inside size body) (min : Nat) (max : Option Nat)
    (lazily : Bool) (count : Nat) :
    Inside size (repeated size body min max lazily count) := by
  intro start
  induction measured : (min - count) + (size - start) using Nat.strong_induction_on
    generalizing count start with
  | _ measure inductionHypothesis =>
  intro bounded way member
  have stopping : way ∈ [Way.bare start] → start ≤ way.stop ∧ way.stop ≤ size :=
    inside_bare start bounded way
  have iterating : way ∈ ((body start).flatMap fun way =>
      if min ≤ count + 1 ∧ way.stop = start then [way]
      else (repeated size body min max lazily (count + 1) way.stop).map way.followedBy) →
      start ≤ way.stop ∧ way.stop ≤ size := by
    intro present
    obtain ⟨before, found, rest⟩ := List.mem_flatMap.mp present
    obtain ⟨after, within⟩ := inside start bounded before found
    split at rest
    · cases List.mem_singleton.mp rest
      exact ⟨after, within⟩
    · obtain ⟨next, foundNext, rfl⟩ := List.mem_map.mp rest
      obtain ⟨afterNext, withinNext⟩ := inductionHypothesis
        ((min - (count + 1)) + (size - before.stop)) (by omega) (count + 1) before.stop rfl within
        next foundNext
      exact ⟨Nat.le_trans after afterNext, withinNext⟩
  rw [repeated_eq inside min max lazily count start bounded] at member
  simp only at member
  split at member
  · exact iterating member
  · split at member
    · exact stopping member
    · split at member
      · exact (List.mem_append.mp member).elim stopping iterating
      · exact (List.mem_append.mp member).elim iterating stopping

end Ways

mutual

theorem Expr.inside_ways (text : Array Char) :
    ∀ expr : Expr, Ways.Inside text.size (expr.ways text)
  | .char _ _ | .any _ | .charClass _ _ => Ways.inside_character text _
  | .anchor place _ => Ways.inside_anchor text place
  | .group kind body _ => Ways.inside_group (body.inside_ways text) text kind
  | .repetition body min max lazily _ =>
    Ways.inside_repeated (body.inside_ways text) min max lazily 0
  | .sequence items _ => inside_waysOfItems text items
  | .alternation branches _ => inside_waysOfBranches text branches

theorem inside_waysOfItems (text : Array Char) :
    ∀ items : List Expr, Ways.Inside text.size (waysOfItems text items)
  | [] => Ways.inside_bare
  | item :: items => Ways.inside_andThen (item.inside_ways text) (inside_waysOfItems text items)

theorem inside_waysOfBranches (text : Array Char) :
    ∀ branches : List Expr, Ways.Inside text.size (waysOfBranches text branches)
  | [] => fun _ _ _ member => nomatch member
  | branch :: branches => fun start bounded way member =>
    (List.mem_append.mp member).elim (branch.inside_ways text start bounded way)
      (inside_waysOfBranches text branches start bounded way)

end

end Rewind
