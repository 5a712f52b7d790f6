/-
This file says what a derivation stands for and when it stands for anything. Each part of a
derivation has an expression, whose span is the bytes of its yield; what the grammar alone cannot
refuse is a condition on the derivation. Resolving a derivation succeeds exactly under this
condition and gives this expression, in which nothing is put together of a single part.
-/

import Mathlib
import Rewind.Pattern.Parse
import Rewind.Proofs.Pattern.Language

namespace Rewind

open Text (byteLength)

namespace Derivation

/-! ### What is admitted -/

/-- The number that decimal digits stand for by their places. -/
def placeValue (digits : List Char) : Nat :=
  Nat.ofDigits 10 (digits.reverse.map fun digit => digit.toNat - '0'.toNat)

/-- What a class character stands for. -/
def ClassChar.meaning : ClassChar → Meaning
  | .escape character => .ofEscape character
  | .literal character => .char character

/-- Ranges are between characters in order, and no shorthand is negated. -/
def ClassPart.Admissible : ClassPart → Prop
  | .range low high => ∃ first last, low.meaning = .char first ∧
    high.meaning = .char last ∧ first ≤ last
  | .single character => character ∉ [.escape 'D', .escape 'W', .escape 'S']

/-- Numbers fit into 32 bits, and no range is backwards. -/
def Bounds.Admissible : Bounds → Prop
  | .star | .plus | .question => True
  | .range low .same | .range low .unbounded => placeValue low < 2 ^ 32
  | .range low (.upTo high) =>
    placeValue low < 2 ^ 32 ∧ placeValue high < 2 ^ 32 ∧ placeValue low ≤ placeValue high

mutual

/-- All branches are admissible. -/
def Alternation.Admissible : Alternation → Prop
  | .only branch => branch.Admissible
  | .either branch rest => branch.Admissible ∧ rest.Admissible

/-- All pieces are admissible. -/
def Sequence.Admissible : Sequence → Prop
  | .empty => True
  | .cons piece rest => piece.Admissible ∧ rest.Admissible

/-- The atom and the bounds are admissible. -/
def Piece.Admissible : Piece → Prop
  | .mk atom quantifier => atom.Admissible ∧ ∀ written ∈ quantifier, written.bounds.Admissible

/-- What is inside of a group or class is admissible. -/
def Atom.Admissible : Atom → Prop
  | .group _ body => body.Admissible
  | .charClass _ parts => ∀ part ∈ parts, part.Admissible
  | .any | .start | .stop | .escape _ | .literal _ => True

end

/-! ### What is stood for -/

/-- The item of a class part. -/
def ClassPart.item : ClassPart → ClassItem
  | .single character =>
    match character.meaning with
    | .char value => .range value value
    | .shorthand item _ => item
  | .range low high =>
    match low.meaning, high.meaning with
    | .char first, .char last => .range first last
    | .shorthand item _, _ | _, .shorthand item _ => item

/-- The least number of iterations. -/
def Bounds.least : Bounds → Nat
  | .star | .question => 0
  | .plus => 1
  | .range low _ => placeValue low

/-- The greatest number of iterations, if there is one. -/
def Bounds.greatest? : Bounds → Option Nat
  | .star | .plus | .range _ .unbounded => none
  | .question => some 1
  | .range low .same => some (placeValue low)
  | .range _ (.upTo high) => some (placeValue high)

mutual

/-- The expressions of the branches, the first of which starts at an offset. A branch with only one
item is that item. -/
def Alternation.branches (offset : Nat) : Alternation → List Expr
  | .only branch => [.ofItems (spanAt offset branch.yield) (branch.items offset)]
  | .either branch rest =>
    .ofItems (spanAt offset branch.yield) (branch.items offset) ::
      rest.branches (offset + byteLength branch.yield + 1)

/-- The expressions of the pieces, the first of which starts at an offset. -/
def Sequence.items (offset : Nat) : Sequence → List Expr
  | .empty => []
  | .cons piece rest => piece.expr offset :: rest.items (offset + byteLength piece.yield)

/-- The expression of a piece that starts at an offset: its atom, unless there is a quantifier. -/
def Piece.expr (offset : Nat) : Piece → Expr
  | .mk atom none => atom.expr offset
  | .mk atom (some quantifier) =>
    .repetition (atom.expr offset) quantifier.bounds.least quantifier.bounds.greatest?
      quantifier.lazily (spanAt offset (atom.yield ++ quantifier.yield))

/-- The expression of an atom that starts at an offset. -/
def Atom.expr (offset : Nat) : Atom → Expr
  | .group opening body =>
    let inner := offset + byteLength opening.yield
    .group opening.kind (.ofBranches (spanAt inner body.yield) (body.branches inner))
      (spanAt offset (opening.yield ++ body.yield ++ [')']))
  | .charClass negated parts =>
    .charClass { negated := negated, items := parts.map ClassPart.item }
      (spanAt offset (Atom.charClass negated parts).yield)
  | .any => .any (spanAt offset ['.'])
  | .start => .anchor .start (spanAt offset ['^'])
  | .stop => .anchor .stop (spanAt offset ['$'])
  | .escape character =>
    match Meaning.ofEscape character with
    | .char value => .char value (spanAt offset ['\\', character])
    | .shorthand item negated =>
      .charClass { negated := negated, items := [item] } (spanAt offset ['\\', character])
  | .literal character => .char character (spanAt offset [character])

end

/-- The pattern of a derivation: its only branch, or the choice between all of them. -/
def Alternation.pattern (alternation : Alternation) : Pattern where
  expr := .ofBranches (spanAt 0 alternation.yield) (alternation.branches 0)
  span := spanAt 0 alternation.yield

/-! ### Lengths and digits -/

theorem byteLength_append (front back : List Char) :
    byteLength (front ++ back) = byteLength front + byteLength back := by
  induction front with
  | nil => exact (Nat.zero_add _).symm
  | cons character front inductionHypothesis =>
    change character.utf8Size + byteLength (front ++ back) =
      character.utf8Size + byteLength front + _
    rw [inductionHypothesis, Nat.add_assoc]

/-- Digits are read from the highest place down. -/
theorem decimal_eq (digits : List Char) : decimal digits = placeValue digits := by
  induction digits using List.reverseRecOn with
  | nil => rfl
  | append_singleton digits digit inductionHypothesis =>
    unfold decimal placeValue at inductionHypothesis ⊢
    rw [List.foldl_append, inductionHypothesis, List.reverse_append, List.reverse_singleton,
      List.singleton_append, List.map_cons, Nat.ofDigits_cons, List.foldl_cons, List.foldl_nil,
      Nat.add_comm]

/-! ### Resolving -/

/-- What may be refused in one of two steps is accepted if both of them accept. -/
theorem bind_eq_ok {ε α β : Type} {action : Except ε α} {next : α → Except ε β} {result : β} :
    (action >>= next) = .ok result ↔ ∃ value, action = .ok value ∧ next value = .ok result := by
  cases action <;> simp [bind, Except.bind]

theorem pure_eq_ok {ε α : Type} {value result : α} :
    (pure value : Except ε α) = .ok result ↔ result = value :=
  ⟨fun same => by cases same; rfl, fun same => by cases same; rfl⟩

theorem ClassChar.meaning_negated {character : ClassChar} :
    (∃ item, character.meaning = .shorthand item true) ↔
      character ∈ [.escape 'D', .escape 'W', .escape 'S'] := by
  cases character with
  | literal character => simp [meaning]
  | escape character =>
    unfold meaning Meaning.ofEscape
    dsimp only
    split <;> simp_all

theorem ClassChar.resolve_eq_ok {character : ClassChar} {offset : Nat} {meaning : Meaning} :
    character.resolve offset = .ok meaning ↔
      character ∉ [.escape 'D', .escape 'W', .escape 'S'] ∧ meaning = character.meaning := by
  rw [← meaning_negated]
  cases character with
  | literal character => simp [resolve, ClassChar.meaning, eq_comm]
  | escape character =>
    unfold resolve ClassChar.meaning
    dsimp only
    obtain value | ⟨item, - | -⟩ := Meaning.ofEscape character <;> simp [eq_comm]

theorem ClassChar.not_negated {character : ClassChar} {value : Char}
    (isChar : character.meaning = .char value) :
    character ∉ [.escape 'D', .escape 'W', .escape 'S'] := by
  rw [← meaning_negated, isChar]
  rintro ⟨item, ⟨⟩⟩

theorem ClassPart.resolve_eq_ok {part : ClassPart} {offset : Nat} {item : ClassItem} :
    part.resolve offset = .ok item ↔ part.Admissible ∧ item = part.item := by
  cases part with
  | single character =>
    simp only [resolve, bind_eq_ok, ClassChar.resolve_eq_ok, Admissible, ClassPart.item, and_assoc,
      exists_and_left, exists_eq_left, and_congr_right_iff]
    intro _
    cases character.meaning <;> exact pure_eq_ok
  | range low high =>
    simp only [resolve, bind_eq_ok, ClassChar.resolve_eq_ok, Admissible, ClassPart.item]
    constructor
    · rintro ⟨_, ⟨-, rfl⟩, _, ⟨-, rfl⟩, accepted⟩
      generalize low.meaning = start at accepted ⊢
      generalize high.meaning = stop at accepted ⊢
      obtain first | ⟨first, negated⟩ := start
      · obtain last | ⟨last, negated⟩ := stop
        · dsimp only at accepted ⊢
          split at accepted
          · rename_i ordered
            exact ⟨⟨first, last, rfl, rfl, ordered⟩, pure_eq_ok.mp accepted⟩
          · cases accepted
        · cases accepted
      · cases accepted
    · rintro ⟨⟨first, last, isFirst, isLast, ordered⟩, rfl⟩
      refine ⟨_, ⟨ClassChar.not_negated isFirst, rfl⟩, _, ⟨ClassChar.not_negated isLast, rfl⟩, ?_⟩
      rw [isFirst, isLast]
      exact if_pos ordered

theorem resolveParts_eq_ok {parts : List ClassPart} {offset : Nat} {items : List ClassItem} :
    resolveParts offset parts = .ok items ↔
      (∀ part ∈ parts, part.Admissible) ∧ items = parts.map ClassPart.item := by
  induction parts generalizing offset items with
  | nil => simp [resolveParts, eq_comm]
  | cons part parts inductionHypothesis =>
    simp only [resolveParts, bind_eq_ok, ClassPart.resolve_eq_ok, inductionHypothesis, pure_eq_ok,
      List.forall_mem_cons, List.map_cons]
    grind

theorem resolveCount_eq_ok {digits : List Char} {offset count : Nat} :
    resolveCount offset digits = .ok count ↔
      placeValue digits < 2 ^ 32 ∧ count = placeValue digits := by
  unfold resolveCount
  rw [decimal_eq]
  split <;> simp_all [eq_comm]

theorem Bounds.resolve_eq_ok {bounds : Bounds} {offset : Nat} {limits : Nat × Option Nat} :
    bounds.resolve offset = .ok limits ↔
      bounds.Admissible ∧ limits = (bounds.least, bounds.greatest?) := by
  cases bounds with
  | star | plus | question => simp [resolve, Admissible, least, greatest?, eq_comm]
  | range low high =>
    simp only [resolve, bind_eq_ok, resolveCount_eq_ok, and_assoc, exists_and_left, exists_eq_left]
    cases high with
    | same | unbounded => simp only [pure_eq_ok, Admissible, least, greatest?]
    | upTo digits =>
      simp only [bind_eq_ok, resolveCount_eq_ok, Admissible, least, greatest?, and_assoc,
        exists_and_left, exists_eq_left]
      refine and_congr_right fun _ => and_congr_right fun _ => ?_
      split
      · rename_i backwards
        exact ⟨nofun, fun ordered => absurd ordered.1 (Nat.not_le.mpr backwards)⟩
      · rename_i ordered
        rw [pure_eq_ok, and_iff_right (Nat.not_lt.mp ordered)]

mutual

theorem Alternation.resolve_eq_ok : ∀ (alternation : Alternation) (offset : Nat)
    {resolved : List Expr × Nat}, alternation.resolve offset = .ok resolved ↔
      alternation.Admissible ∧
      resolved = (alternation.branches offset, offset + byteLength alternation.yield)
  | .only branch, offset, resolved => by
    simp only [Alternation.resolve, bind_eq_ok, branch.resolve_eq_ok, pure_eq_ok, and_assoc,
      exists_and_left, exists_eq_left, Alternation.Admissible, Alternation.branches,
      Alternation.yield,
      spanAt]
  | .either branch rest, offset, resolved => by
    have behind : offset + byteLength (branch.yield ++ '|' :: rest.yield) =
        offset + byteLength branch.yield + 1 + byteLength rest.yield := by
      rw [byteLength_append, Nat.add_assoc, Nat.add_assoc]
      rfl
    simp only [Alternation.resolve, bind_eq_ok, branch.resolve_eq_ok,
      rest.resolve_eq_ok, pure_eq_ok,
      and_assoc, exists_and_left, exists_eq_left, Alternation.Admissible, Alternation.branches,
      Alternation.yield, behind, spanAt]

theorem Sequence.resolve_eq_ok : ∀ (sequence : Sequence) (offset : Nat)
    {resolved : List Expr × Nat}, sequence.resolve offset = .ok resolved ↔ sequence.Admissible ∧
      resolved = (sequence.items offset, offset + byteLength sequence.yield)
  | .empty, offset, resolved => by
    rw [Sequence.Admissible, true_and, Sequence.resolve, Except.ok.injEq, eq_comm]
    rfl
  | .cons piece rest, offset, resolved => by
    simp only [Sequence.resolve, bind_eq_ok, piece.resolve_eq_ok, rest.resolve_eq_ok, pure_eq_ok,
      and_assoc, exists_and_left, exists_eq_left, Sequence.Admissible,
      Sequence.items, Sequence.yield,
      byteLength_append, Nat.add_assoc]

theorem Piece.resolve_eq_ok : ∀ (piece : Piece) (offset : Nat)
    {resolved : Expr × Nat}, piece.resolve offset = .ok resolved ↔ piece.Admissible ∧
      resolved = (piece.expr offset, offset + byteLength piece.yield)
  | .mk atom none, offset, resolved => by
    simp only [Piece.resolve, atom.resolve_eq_ok, Piece.Admissible, Piece.expr, Piece.yield,
      Option.map_none, Option.getD_none, List.append_nil, Option.mem_def,
      reduceCtorEq, false_implies,
      implies_true, and_true]
  | .mk atom (some quantifier), offset, resolved => by
    simp only [Piece.resolve, bind_eq_ok, atom.resolve_eq_ok, Bounds.resolve_eq_ok, pure_eq_ok,
      and_assoc, exists_and_left, exists_eq_left, Piece.Admissible, Piece.expr, Piece.yield,
      Option.map_some, Option.getD_some, Option.mem_def, Option.some.injEq, forall_eq', spanAt,
      byteLength_append, Nat.add_assoc]

theorem Atom.resolve_eq_ok : ∀ (atom : Atom) (offset : Nat)
    {resolved : Expr × Nat}, atom.resolve offset = .ok resolved ↔ atom.Admissible ∧
      resolved = (atom.expr offset, offset + byteLength atom.yield)
  | .group opening body, offset, resolved => by
    have behind : offset + byteLength (opening.yield ++ body.yield ++ [')']) =
        offset + byteLength opening.yield + byteLength body.yield + 1 := by
      rw [byteLength_append, byteLength_append, ← Nat.add_assoc, ← Nat.add_assoc]
      rfl
    simp only [Atom.resolve, bind_eq_ok, body.resolve_eq_ok, pure_eq_ok, and_assoc, exists_and_left,
      exists_eq_left, Atom.Admissible, Atom.expr, Atom.yield, behind, spanAt]
  | .charClass negated parts, offset, resolved => by
    have behind : offset + byteLength (Atom.charClass negated parts).yield =
        offset + 1 + (if negated then 1 else 0) +
          byteLength (parts.flatMap ClassPart.yield) + 1 := by
      change offset + (1 + byteLength (_ ++ _ ++ [']'])) = _
      rw [byteLength_append, byteLength_append, ← Nat.add_assoc, ← Nat.add_assoc, ← Nat.add_assoc]
      cases negated <;> rfl
    simp only [Atom.resolve, bind_eq_ok, resolveParts_eq_ok, pure_eq_ok, and_assoc, exists_and_left,
      exists_eq_left, Atom.Admissible, Atom.expr, behind, spanAt]
  | .any, offset, resolved | .start, offset, resolved | .stop, offset, resolved => by
    rw [Atom.Admissible, true_and, Atom.resolve, Except.ok.injEq, eq_comm]
    rfl
  | .escape character, offset, resolved => by
    rw [Atom.Admissible, true_and, Atom.resolve, Atom.expr, Atom.yield]
    cases Meaning.ofEscape character <;> exact (iff_of_eq (Except.ok.injEq _ _)).trans eq_comm
  | .literal character, offset, resolved => by
    rw [Atom.Admissible, true_and, Atom.resolve, Except.ok.injEq, eq_comm]
    rfl

end

/-! ### Refusals -/

/-- If something is refused, then not for its syntax. -/
def Judged {α : Type} (outcome : Except ParseError α) : Prop :=
  ∀ error rules, outcome = .error error → error.cause ≠ .expected rules

section Judged

variable {α β : Type}

theorem judged_ok (value : α) : Judged (.ok value) := nofun

theorem judged_pure (value : α) : Judged (pure value) := nofun

theorem judged_error {error : ParseError} (judged : ∀ rules, error.cause ≠ .expected rules) :
    Judged (.error error : Except ParseError α) := by
  rintro _ rules ⟨⟩
  exact judged rules

theorem Judged.bind {outcome : Except ParseError α} {next : α → Except ParseError β}
    (first : Judged outcome) (second : ∀ value, Judged (next value)) :
    Judged (outcome >>= next) := by
  cases outcome with
  | ok value => exact second value
  | error error =>
    rintro _ rules ⟨⟩
    exact first error rules rfl

end Judged

theorem ClassChar.judged_resolve (character : ClassChar) (offset : Nat) :
    Judged (character.resolve offset) := by
  unfold resolve
  split
  · exact judged_ok _
  · split
    · exact judged_error nofun
    · exact judged_ok _

theorem ClassPart.judged_resolve (part : ClassPart) (offset : Nat) :
    Judged (part.resolve offset) := by
  cases part with
  | single character =>
    refine (character.judged_resolve offset).bind fun meaning => ?_
    cases meaning <;> exact judged_pure _
  | range low high =>
    refine (low.judged_resolve offset).bind fun first => (high.judged_resolve _).bind fun last => ?_
    split
    · split
      · exact judged_pure _
      · exact judged_error nofun
    · exact judged_error nofun

theorem judged_resolveParts (parts : List ClassPart) (offset : Nat) :
    Judged (resolveParts offset parts) := by
  induction parts generalizing offset with
  | nil => exact judged_ok _
  | cons part parts inductionHypothesis =>
    exact (part.judged_resolve offset).bind fun item => (inductionHypothesis _).bind fun items =>
      judged_pure _

theorem judged_resolveCount (digits : List Char) (offset : Nat) :
    Judged (resolveCount offset digits) := by
  unfold resolveCount
  split
  · exact judged_ok _
  · exact judged_error nofun

theorem Bounds.judged_resolve (bounds : Bounds) (offset : Nat) :
    Judged (bounds.resolve offset) := by
  cases bounds with
  | star | plus | question => exact judged_ok _
  | range low high =>
    refine (judged_resolveCount low _).bind fun min => ?_
    cases high with
    | same | unbounded => exact judged_pure _
    | upTo digits =>
      refine (judged_resolveCount digits _).bind fun max => ?_
      split
      · exact judged_error nofun
      · exact judged_pure _

mutual

theorem Alternation.judged_resolve : ∀ (alternation : Alternation) (offset : Nat),
    Judged (alternation.resolve offset)
  | .only branch, offset => (branch.judged_resolve offset).bind fun _ => judged_pure _
  | .either branch rest, offset =>
    (branch.judged_resolve offset).bind fun _ => (rest.judged_resolve _).bind fun _ => judged_pure _

theorem Sequence.judged_resolve : ∀ (sequence : Sequence) (offset : Nat),
    Judged (sequence.resolve offset)
  | .empty, _ => judged_ok _
  | .cons piece rest, offset =>
    (piece.judged_resolve offset).bind fun _ => (rest.judged_resolve _).bind fun _ => judged_pure _

theorem Piece.judged_resolve : ∀ (piece : Piece) (offset : Nat), Judged (piece.resolve offset)
  | .mk atom none, offset => atom.judged_resolve offset
  | .mk atom (some quantifier), offset =>
    (atom.judged_resolve offset).bind fun _ => (quantifier.bounds.judged_resolve _).bind fun _ =>
      judged_pure _

theorem Atom.judged_resolve : ∀ (atom : Atom) (offset : Nat), Judged (atom.resolve offset)
  | .group _ body, _ => (body.judged_resolve _).bind fun _ => judged_pure _
  | .charClass _ parts, _ => (judged_resolveParts parts _).bind fun _ => judged_pure _
  | .any, _ | .start, _ | .stop, _ | .literal _, _ => judged_ok _
  | .escape character, offset => by
    unfold Atom.resolve
    cases Meaning.ofEscape character <;> exact judged_ok _

end

end Derivation

/-! ### Reduced expressions -/

/-- Nothing in an expression is put together of a single part, and no class is empty. -/
inductive Expr.Reduced : Expr → Prop
  | char (value : Char) (span : Span) : Reduced (.char value span)
  | any (span : Span) : Reduced (.any span)
  | anchor (anchor : Anchor) (span : Span) : Reduced (.anchor anchor span)
  | charClass {set : CharClass} (span : Span) (nonempty : 1 ≤ set.items.length) :
    Reduced (.charClass set span)
  | group (kind : GroupKind) {body : Expr} (span : Span) (reduced : body.Reduced) :
    Reduced (.group kind body span)
  | repetition {body : Expr} (min : Nat) (max : Option Nat) (lazily : Bool) (span : Span)
    (reduced : body.Reduced) : Reduced (.repetition body min max lazily span)
  | sequence {items : List Expr} (span : Span) (several : items.length ≠ 1)
    (reduced : ∀ item ∈ items, item.Reduced) : Reduced (.sequence items span)
  | alternation {branches : List Expr} (span : Span) (several : 2 ≤ branches.length)
    (reduced : ∀ branch ∈ branches, branch.Reduced) : Reduced (.alternation branches span)

theorem Expr.reduced_ofItems {items : List Expr} (span : Span)
    (reduced : ∀ item ∈ items, item.Reduced) :
    (Expr.ofItems span items).Reduced := by
  match items with
  | [] => exact .sequence span nofun reduced
  | [item] => exact reduced item List.mem_cons_self
  | _ :: _ :: _ => exact .sequence span nofun reduced

theorem Expr.reduced_ofBranches {branches : List Expr} (span : Span) (nonempty : branches ≠ [])
    (reduced : ∀ branch ∈ branches, branch.Reduced) : (Expr.ofBranches span branches).Reduced := by
  match branches with
  | [] => exact absurd rfl nonempty
  | [branch] => exact reduced branch List.mem_cons_self
  | _ :: _ :: _ => exact .alternation span (Nat.le_add_left _ _) reduced

namespace Derivation

theorem Alternation.branches_ne_nil (alternation : Alternation) (offset : Nat) :
    alternation.branches offset ≠ [] := by
  cases alternation <;> exact List.cons_ne_nil _ _

mutual

theorem Alternation.reduced_branches : ∀ (alternation : Alternation) (offset : Nat),
    alternation.WellFormed → ∀ branch ∈ alternation.branches offset, branch.Reduced
  | .only branch, offset, wellFormed => by
    rw [Alternation.branches, List.forall_mem_singleton]
    exact Expr.reduced_ofItems _ (branch.reduced_items offset wellFormed)
  | .either branch rest, offset, wellFormed => by
    rw [Alternation.branches, List.forall_mem_cons]
    exact ⟨Expr.reduced_ofItems _ (branch.reduced_items offset wellFormed.1),
      rest.reduced_branches _ wellFormed.2⟩

theorem Sequence.reduced_items : ∀ (sequence : Sequence) (offset : Nat), sequence.WellFormed →
    ∀ item ∈ sequence.items offset, item.Reduced
  | .empty, _, _ => nofun
  | .cons piece rest, offset, wellFormed => by
    rw [Sequence.items, List.forall_mem_cons]
    exact ⟨piece.reduced_expr offset wellFormed.1, rest.reduced_items _ wellFormed.2⟩

theorem Piece.reduced_expr : ∀ (piece : Piece) (offset : Nat), piece.WellFormed →
    (piece.expr offset).Reduced
  | .mk atom none, offset, wellFormed => atom.reduced_expr offset wellFormed.1
  | .mk atom (some _), offset, wellFormed =>
    .repetition _ _ _ _ (atom.reduced_expr offset wellFormed.1)

theorem Atom.reduced_expr : ∀ (atom : Atom) (offset : Nat), atom.WellFormed →
    (atom.expr offset).Reduced
  | .group _ body, _, wellFormed =>
    .group _ _
      (Expr.reduced_ofBranches _ (body.branches_ne_nil _) (body.reduced_branches _ wellFormed.2))
  | .charClass _ parts, _, wellFormed => by
    refine .charClass _ ?_
    rw [List.length_map]
    exact List.length_pos_of_ne_nil wellFormed.1
  | .any, _, _ => .any _
  | .start, _, _ | .stop, _, _ => .anchor _ _
  | .escape character, _, _ => by
    unfold Atom.expr
    cases Meaning.ofEscape character with
    | char value => exact .char _ _
    | shorthand item negated => exact .charClass _ (le_refl 1)
  | .literal _, _, _ => .char _ _

end

theorem Alternation.reduced_pattern {alternation : Alternation}
    (wellFormed : alternation.WellFormed) :
    alternation.pattern.expr.Reduced :=
  Expr.reduced_ofBranches _ (alternation.branches_ne_nil 0)
    (alternation.reduced_branches 0 wellFormed)

end Derivation

end Rewind
