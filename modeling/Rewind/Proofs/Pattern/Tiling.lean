/-
This file says where the parts of a pattern stand in its text. The spans of an accepted pattern tile
the text: items stand next to each other, branches have a bar between them, and what a group or
repetition adds to its body is its parentheses or its quantifier. A refusal has the span of what was
refused. The ends of all of these spans are between characters, although they count bytes.
-/

import Mathlib
import Rewind.Proofs.Pattern.Acceptance

namespace Rewind

open Text (byteLength)
open Rewind.Derivation

/-! ### Characters of a text -/

namespace Text

/-- Some characters stand in a text, that many bytes behind its start. -/
def StandsAt (text : List Char) (offset : Nat) (characters : List Char) : Prop :=
  ∃ before after, text = before ++ (characters ++ after) ∧ byteLength before = offset

theorem standsAt_zero (text : List Char) : StandsAt text 0 text :=
  ⟨[], [], (List.append_nil text).symm, rfl⟩

theorem StandsAt.append {text front back : List Char} {offset : Nat}
    (stands : StandsAt text offset (front ++ back)) :
    StandsAt text offset front ∧ StandsAt text (offset + byteLength front) back := by
  obtain ⟨before, after, rfl, rfl⟩ := stands
  refine ⟨⟨before, back ++ after, ?_, rfl⟩, before ++ front, after, ?_,
    byteLength_append before front⟩
  · rw [List.append_assoc]
  · rw [List.append_assoc, List.append_assoc]

/-- A character of one byte, and what stands behind it. -/
theorem StandsAt.cons {text back : List Char} {character : Char} {offset : Nat}
    (stands : StandsAt text offset (character :: back)) (narrow : character.utf8Size = 1) :
    StandsAt text offset [character] ∧ StandsAt text (offset + 1) back := by
  have size : byteLength [character] = 1 := narrow
  rw [← size]
  exact append stands

theorem splitAtByte?_cons (character : Char) (offset : Nat) (rest : List Char) :
    splitAtByte? (character.utf8Size + offset) (character :: rest) =
      (splitAtByte? offset rest).map fun halves => (character :: halves.1, halves.2) := by
  have positive := character.utf8Size_pos
  rw [splitAtByte?.eq_3 _ _ _ (by omega), if_pos (Nat.le_add_right _ _), Nat.add_sub_cancel_left]

theorem splitAtByte?_append (before after : List Char) :
    splitAtByte? (byteLength before) (before ++ after) = some (before, after) := by
  induction before with
  | nil => exact splitAtByte?.eq_1 after
  | cons character before inductionHypothesis =>
    change splitAtByte? (character.utf8Size + byteLength before)
      (character :: (before ++ after)) = _
    rw [splitAtByte?_cons, inductionHypothesis, Option.map_some]

end Text

/-- A span is where some characters of a text stand. -/
structure Span.Covers (span : Span) (text characters : List Char) : Prop where
  stands : Text.StandsAt text span.start characters
  stop : span.stop = span.start + byteLength characters

/-- What a span covers is what is shown for it, and there is a line and column where it starts. -/
theorem Span.Covers.shown {source : Source} {span : Span} {characters : List Char}
    (covers : span.Covers source.text characters) :
    source.slice span = characters ∧ source.place? span ≠ none := by
  obtain ⟨⟨before, after, same, counted⟩, stop⟩ := covers
  have cut := Text.splitAtByte?_append before (characters ++ after)
  rw [← same, counted] at cut
  constructor
  · rw [Source.slice, Text.slice?, stop, if_pos (Nat.le_add_right _ _), cut, Option.bind_some,
      Nat.add_sub_cancel_left, Text.splitAtByte?_append]
    rfl
  · rw [Source.place?, Text.place?, cut]
    exact Option.some_ne_none _

namespace Derivation

variable {text front back : List Char} {offset : Nat}

theorem covers_spanAt {characters : List Char} (stands : Text.StandsAt text offset characters) :
    (spanAt offset characters).Covers text characters :=
  ⟨stands, rfl⟩

/-- Where some characters end with others, these have the rest of the span. -/
theorem covers_rest (stands : Text.StandsAt text offset (front ++ back)) :
    Span.Covers ⟨offset + byteLength front, offset + byteLength (front ++ back)⟩ text back := by
  refine ⟨stands.append.2, ?_⟩
  rw [byteLength_append, Nat.add_assoc]

end Derivation

/-! ### Tilings -/

/-- Spans next to each other, from one offset to another. -/
def Span.Adjacent (start stop : Nat) : List Span → Prop
  | [] => start = stop
  | span :: spans => span.start = start ∧ Adjacent span.stop stop spans

/-- Spans with one bar of the text between each two of them, from one offset to another. -/
def Span.Barred (text : List Char) (start stop : Nat) : List Span → Prop
  | [] => False
  | [span] => span.start = start ∧ span.stop = stop
  | span :: spans => span.start = start ∧ Span.Covers ⟨span.stop, span.stop + 1⟩ text ['|'] ∧
    Barred text (span.stop + 1) stop spans

/-- All spans in an expression cover what the expression was written as. -/
inductive Expr.Tiled (text : List Char) : Expr → Prop
  | literal {value : Char} {span : Span} (covers : span.Covers text [value]) :
    Tiled text (.char value span)
  | escape {value written : Char} {span : Span} (covers : span.Covers text ['\\', written])
    (means : Meaning.ofEscape written = .char value) : Tiled text (.char value span)
  | shorthand {item : ClassItem} {negated : Bool} {written : Char} {span : Span}
    (covers : span.Covers text ['\\', written])
    (means : Meaning.ofEscape written = .shorthand item negated) :
    Tiled text (.charClass { negated := negated, items := [item] } span)
  | charClass {negated : Bool} {parts : List ClassPart} {span : Span}
    (covers : span.Covers text (Atom.charClass negated parts).yield) :
    Tiled text (.charClass { negated := negated, items := parts.map ClassPart.item } span)
  | any {span : Span} (covers : span.Covers text ['.']) : Tiled text (.any span)
  | start {span : Span} (covers : span.Covers text ['^']) : Tiled text (.anchor .start span)
  | stop {span : Span} (covers : span.Covers text ['$']) : Tiled text (.anchor .stop span)
  /-- A group is its opening, its body and a closing parenthesis. -/
  | group {opening : Opening} {body : Expr} {span : Span} {characters : List Char}
    (covers : span.Covers text characters) (wellFormed : opening.WellFormed)
    (opens : Span.Covers ⟨span.start, body.span.start⟩ text opening.yield) (tiled : body.Tiled text)
    (closes : Span.Covers ⟨body.span.stop, span.stop⟩ text [')']) :
    Tiled text (.group opening.kind body span)
  /-- A repetition is its body and its quantifier. -/
  | repetition {quantifier : Quantifier} {body : Expr} {span : Span} {characters : List Char}
    (covers : span.Covers text characters) (wellFormed : quantifier.bounds.WellFormed)
    (starts : body.span.start = span.start) (tiled : body.Tiled text)
    (quantified : Span.Covers ⟨body.span.stop, span.stop⟩ text quantifier.yield) :
    Tiled text (.repetition body quantifier.bounds.least quantifier.bounds.greatest?
      quantifier.lazily span)
  /-- A sequence is its items, next to each other. -/
  | sequence {items : List Expr} {span : Span} {characters : List Char}
    (covers : span.Covers text characters)
    (adjacent : Span.Adjacent span.start span.stop (items.map Expr.span))
    (tiled : ∀ item ∈ items, item.Tiled text) : Tiled text (.sequence items span)
  /-- An alternation is its branches, with a bar between each two of them. -/
  | alternation {branches : List Expr} {span : Span} {characters : List Char}
    (covers : span.Covers text characters)
    (barred : Span.Barred text span.start span.stop (branches.map Expr.span))
    (tiled : ∀ branch ∈ branches, branch.Tiled text) : Tiled text (.alternation branches span)

namespace Expr

variable {text characters : List Char} {span : Span}

theorem Tiled.covers {expr : Expr} (tiled : expr.Tiled text) :
    ∃ characters, expr.span.Covers text characters := by
  cases tiled with
  | literal covers | escape covers | shorthand covers | charClass covers | any covers | start covers
  | stop covers | group covers | repetition covers | sequence covers | alternation covers =>
    exact ⟨_, covers⟩

/-- A single item has the span of the whole sequence. -/
theorem tiled_ofItems {items : List Expr} (covers : span.Covers text characters)
    (adjacent : Span.Adjacent span.start span.stop (items.map Expr.span))
    (tiled : ∀ item ∈ items, item.Tiled text) :
    (ofItems span items).span = span ∧ (ofItems span items).Tiled text := by
  match items with
  | [] => exact ⟨rfl, .sequence covers adjacent tiled⟩
  | [item] =>
    obtain ⟨start, stop⟩ := adjacent
    refine ⟨?_, tiled item List.mem_cons_self⟩
    change item.span = ⟨span.start, span.stop⟩
    rw [← start, ← stop]
  | _ :: _ :: _ => exact ⟨rfl, .sequence covers adjacent tiled⟩

/-- A single branch has the span of the whole alternation. -/
theorem tiled_ofBranches {branches : List Expr} (covers : span.Covers text characters)
    (barred : Span.Barred text span.start span.stop (branches.map Expr.span))
    (tiled : ∀ branch ∈ branches, branch.Tiled text) :
    (ofBranches span branches).span = span ∧ (ofBranches span branches).Tiled text := by
  match branches with
  | [] => exact barred.elim
  | [branch] =>
    obtain ⟨start, stop⟩ := barred
    refine ⟨?_, tiled branch List.mem_cons_self⟩
    change branch.span = ⟨span.start, span.stop⟩
    rw [← start, ← stop]
  | _ :: _ :: _ => exact ⟨rfl, .alternation covers barred tiled⟩

end Expr

/-! ### Accepted derivations -/

namespace Derivation

variable {text : List Char}

mutual

theorem Alternation.tiled_branches : ∀ (alternation : Alternation) (offset : Nat),
    alternation.WellFormed → Text.StandsAt text offset alternation.yield →
    Span.Barred text offset (offset + byteLength alternation.yield)
      ((alternation.branches offset).map Expr.span) ∧
    ∀ branch ∈ alternation.branches offset, branch.Tiled text
  | .only branch, offset, wellFormed, stands => by
    obtain ⟨spans, tiled⟩ := branch.tiled offset wellFormed stands
    rw [Alternation.branches, List.map_singleton, spans, List.forall_mem_singleton]
    exact ⟨⟨rfl, rfl⟩, tiled⟩
  | .either branch rest, offset, ⟨wellFormed, others⟩, stands => by
    obtain ⟨front, behind⟩ := stands.append
    obtain ⟨bar, after⟩ := behind.cons rfl
    obtain ⟨spans, tiled⟩ := branch.tiled offset wellFormed front
    obtain ⟨barred, all⟩ := rest.tiled_branches (offset + byteLength branch.yield + 1) others after
    have last : offset + byteLength (branch.yield ++ '|' :: rest.yield) =
        offset + byteLength branch.yield + 1 + byteLength rest.yield := by
      rw [byteLength_append, Nat.add_assoc, Nat.add_assoc]
      rfl
    rw [Alternation.branches, List.map_cons, spans, List.forall_mem_cons, Alternation.yield, last]
    refine ⟨?_, tiled, all⟩
    obtain ⟨next, more, same⟩ := List.exists_cons_of_ne_nil
      (rest.branches_ne_nil (offset + byteLength branch.yield + 1))
    rw [same] at barred ⊢
    exact ⟨rfl, ⟨bar, rfl⟩, barred⟩

theorem Sequence.tiled : ∀ (sequence : Sequence) (offset : Nat), sequence.WellFormed →
    Text.StandsAt text offset sequence.yield →
    (Expr.ofItems (spanAt offset sequence.yield) (sequence.items offset)).span =
      spanAt offset sequence.yield ∧
    (Expr.ofItems (spanAt offset sequence.yield) (sequence.items offset)).Tiled text :=
  fun sequence offset wellFormed stands => by
    obtain ⟨adjacent, tiled⟩ := sequence.tiled_items offset wellFormed stands
    exact Expr.tiled_ofItems (covers_spanAt stands) adjacent tiled

theorem Sequence.tiled_items : ∀ (sequence : Sequence) (offset : Nat), sequence.WellFormed →
    Text.StandsAt text offset sequence.yield →
    Span.Adjacent offset (offset + byteLength sequence.yield)
      ((sequence.items offset).map Expr.span) ∧
    ∀ item ∈ sequence.items offset, item.Tiled text
  | .empty, _, _, _ => ⟨rfl, nofun⟩
  | .cons piece rest, offset, ⟨wellFormed, others⟩, stands => by
    obtain ⟨front, behind⟩ := stands.append
    obtain ⟨spans, tiled⟩ := piece.tiled_expr offset wellFormed front
    obtain ⟨adjacent, all⟩ := rest.tiled_items _ others behind
    rw [Sequence.items, List.map_cons, spans, List.forall_mem_cons, Sequence.yield,
      byteLength_append, ← Nat.add_assoc]
    exact ⟨⟨rfl, adjacent⟩, tiled, all⟩

theorem Piece.tiled_expr : ∀ (piece : Piece) (offset : Nat), piece.WellFormed →
    Text.StandsAt text offset piece.yield →
    (piece.expr offset).span = spanAt offset piece.yield ∧ (piece.expr offset).Tiled text
  | .mk atom none, offset, ⟨wellFormed, _⟩, stands => by
    have same : (Piece.mk atom none).yield = atom.yield := List.append_nil _
    rw [same] at stands ⊢
    exact atom.tiled_expr offset wellFormed stands
  | .mk atom (some quantifier), offset, ⟨wellFormed, bounded⟩, stands => by
    obtain ⟨spans, tiled⟩ := atom.tiled_expr offset wellFormed stands.append.1
    refine ⟨rfl, .repetition (covers_spanAt stands) (bounded quantifier rfl) ?_ tiled ?_⟩
    · rw [spans]
      rfl
    · rw [spans]
      exact covers_rest stands

theorem Atom.tiled_expr : ∀ (atom : Atom) (offset : Nat), atom.WellFormed →
    Text.StandsAt text offset atom.yield →
    (atom.expr offset).span = spanAt offset atom.yield ∧ (atom.expr offset).Tiled text
  | .group opening body, offset, ⟨opens, wellFormed⟩, stands => by
    obtain ⟨front, inside⟩ := stands.append.1.append
    obtain ⟨barred, tiled⟩ := body.tiled_branches _ wellFormed inside
    obtain ⟨spans, whole⟩ := Expr.tiled_ofBranches (covers_spanAt inside) barred tiled
    refine ⟨rfl, .group (covers_spanAt stands) opens ?_ whole ?_⟩
    · rw [spans]
      exact covers_spanAt front
    · rw [spans]
      have closing := covers_rest stands
      rw [byteLength_append opening.yield, ← Nat.add_assoc] at closing
      exact closing
  | .charClass _ _, _, _, stands => ⟨rfl, .charClass (covers_spanAt stands)⟩
  | .any, _, _, stands => ⟨rfl, .any (covers_spanAt stands)⟩
  | .start, _, _, stands => ⟨rfl, .start (covers_spanAt stands)⟩
  | .stop, _, _, stands => ⟨rfl, .stop (covers_spanAt stands)⟩
  | .escape character, offset, _, stands => by
    unfold Atom.expr
    cases means : Meaning.ofEscape character with
    | char value => exact ⟨rfl, .escape (covers_spanAt stands) means⟩
    | shorthand item negated => exact ⟨rfl, .shorthand (covers_spanAt stands) means⟩
  | .literal _, _, _, stands => ⟨rfl, .literal (covers_spanAt stands)⟩

end

theorem Alternation.tiled_pattern {alternation : Alternation} (derives : Derives alternation text) :
    alternation.pattern.span = ⟨0, byteLength text⟩ ∧
      alternation.pattern.expr.span = alternation.pattern.span ∧
      alternation.pattern.expr.Tiled text := by
  obtain ⟨wellFormed, rfl⟩ := derives
  have stands := Text.standsAt_zero alternation.yield
  obtain ⟨barred, tiled⟩ := alternation.tiled_branches 0 wellFormed stands
  refine ⟨?_, Expr.tiled_ofBranches (covers_spanAt stands) barred tiled⟩
  rw [Alternation.pattern, spanAt, Nat.zero_add]

end Derivation

/-! ### Refusals -/

/-- The characters that a refusal finds fault with. -/
def ParseError.Cause.Blames : ParseError.Cause → List Char → Prop
  | .expected _, _ => False
  | .backwardsRepetition min max, characters => ∃ low high, IsNumber low ∧ IsNumber high ∧
    characters = (Bounds.range low (.upTo high)).yield ∧
    min = placeValue low ∧ max = placeValue high ∧ max < min
  | .countTooLarge, characters => IsNumber characters ∧ 2 ^ 32 ≤ placeValue characters
  | .backwardsClassRange low high, characters => ∃ first last : ClassChar,
    characters = (ClassPart.range first last).yield ∧
    first.meaning = .char low ∧ last.meaning = .char high ∧ high < low
  | .shorthandInRange, characters => ∃ first last : ClassChar,
    characters = (ClassPart.range first last).yield ∧
    ∃ item negated, first.meaning = .shorthand item negated ∨ last.meaning = .shorthand item negated
  | .negatedShorthand, characters => ∃ written : ClassChar,
    characters = written.yield ∧ written ∈ [.escape 'D', .escape 'W', .escape 'S']

namespace Derivation

/-- If something is refused, then for the characters that the span of the refusal covers. -/
def Blamed {α : Type} (text : List Char) (outcome : Except ParseError α) : Prop :=
  ∀ error, outcome = .error error →
    ∃ characters, error.span.Covers text characters ∧ error.cause.Blames characters

section Blamed

variable {α β : Type} {text : List Char}

theorem blamed_ok (value : α) : Blamed text (.ok value) := nofun

theorem blamed_pure (value : α) : Blamed text (pure value) := nofun

theorem blamed_error {offset : Nat} {characters : List Char} {cause : ParseError.Cause}
    (stands : Text.StandsAt text offset characters) (blames : cause.Blames characters) :
    Blamed text
      (.error { span := spanAt offset characters, cause := cause } : Except ParseError α) := by
  rintro _ ⟨⟩
  exact ⟨characters, covers_spanAt stands, blames⟩

theorem Blamed.bind {outcome : Except ParseError α} {next : α → Except ParseError β}
    (first : Blamed text outcome)
    (second : ∀ value, outcome = .ok value → Blamed text (next value)) :
    Blamed text (outcome >>= next) := by
  cases outcome with
  | ok value => exact second value rfl
  | error error =>
    rintro _ ⟨⟩
    exact first error rfl

end Blamed

variable {text : List Char}

theorem ClassChar.blamed_resolve (character : ClassChar) {offset : Nat}
    (stands : Text.StandsAt text offset character.yield) :
    Blamed text (character.resolve offset) := by
  cases character with
  | literal character => exact blamed_ok _
  | escape character =>
    have negated := @ClassChar.meaning_negated (.escape character)
    unfold resolve
    unfold meaning at negated
    dsimp only at negated ⊢
    split
    · rename_i item means
      exact blamed_error stands ⟨.escape character, rfl, negated.mp ⟨item, means⟩⟩
    · exact blamed_ok _

theorem ClassPart.blamed_resolve (part : ClassPart) {offset : Nat}
    (stands : Text.StandsAt text offset part.yield) : Blamed text (part.resolve offset) := by
  cases part with
  | single character =>
    refine (character.blamed_resolve stands).bind fun meaning _ => ?_
    cases meaning <;> exact blamed_pure _
  | range low high =>
    obtain ⟨front, behind⟩ := Text.StandsAt.append stands
    have last := (behind.cons rfl).2
    refine (low.blamed_resolve front).bind fun lowMeaning acceptedLow => ?_
    refine (high.blamed_resolve last).bind fun highMeaning acceptedHigh => ?_
    obtain ⟨-, meansLow⟩ := ClassChar.resolve_eq_ok.mp acceptedLow
    obtain ⟨-, meansHigh⟩ := ClassChar.resolve_eq_ok.mp acceptedHigh
    obtain first | ⟨item, negated⟩ := lowMeaning
    · obtain last | ⟨item, negated⟩ := highMeaning
      · dsimp only
        split
        · exact blamed_pure _
        · rename_i backwards
          exact blamed_error stands
            ⟨low, high, rfl, meansLow.symm, meansHigh.symm, not_le.mp backwards⟩
      · exact blamed_error stands ⟨low, high, rfl, item, negated, .inr meansHigh.symm⟩
    · exact blamed_error stands ⟨low, high, rfl, item, negated, .inl meansLow.symm⟩

theorem blamed_resolveParts (parts : List ClassPart) {offset : Nat}
    (stands : Text.StandsAt text offset (parts.flatMap ClassPart.yield)) :
    Blamed text (resolveParts offset parts) := by
  induction parts generalizing offset with
  | nil => exact blamed_ok _
  | cons part parts inductionHypothesis =>
    obtain ⟨front, behind⟩ := stands.append
    exact (part.blamed_resolve front).bind fun item _ =>
      (inductionHypothesis behind).bind fun items _ => blamed_pure _

theorem blamed_resolveCount {digits : List Char} {offset : Nat} (number : IsNumber digits)
    (stands : Text.StandsAt text offset digits) : Blamed text (resolveCount offset digits) := by
  unfold resolveCount
  rw [decimal_eq]
  split
  · exact blamed_ok _
  · rename_i large
    exact blamed_error stands ⟨number, Nat.not_lt.mp large⟩

theorem Bounds.blamed_resolve {bounds : Bounds} {offset : Nat} (wellFormed : bounds.WellFormed)
    (stands : Text.StandsAt text offset bounds.yield) : Blamed text (bounds.resolve offset) := by
  cases bounds with
  | star | plus | question => exact blamed_ok _
  | range low high =>
    obtain ⟨number, upper⟩ := wellFormed
    have inside := (stands.cons rfl).2.append.1
    obtain ⟨front, behind⟩ := inside.append
    refine (blamed_resolveCount number front).bind fun min acceptedMin => ?_
    cases high with
    | same | unbounded => exact blamed_pure _
    | upTo digits =>
      have last := (behind.cons rfl).2
      refine (blamed_resolveCount upper last).bind fun max acceptedMax => ?_
      obtain ⟨-, isMin⟩ := resolveCount_eq_ok.mp acceptedMin
      obtain ⟨-, isMax⟩ := resolveCount_eq_ok.mp acceptedMax
      split
      · rename_i backwards
        exact blamed_error stands ⟨low, digits, number, upper, rfl, isMin, isMax, backwards⟩
      · exact blamed_pure _

mutual

theorem Alternation.blamed_resolve : ∀ (alternation : Alternation) (offset : Nat),
    alternation.WellFormed → Text.StandsAt text offset alternation.yield →
    Blamed text (alternation.resolve offset)
  | .only branch, offset, wellFormed, stands =>
    (branch.blamed_resolve offset wellFormed stands).bind fun _ _ => blamed_pure _
  | .either branch rest, offset, ⟨wellFormed, others⟩, stands => by
    obtain ⟨front, behind⟩ := stands.append
    refine (branch.blamed_resolve offset wellFormed front).bind fun resolved accepted => ?_
    obtain ⟨-, rfl⟩ := (branch.resolve_eq_ok offset).mp accepted
    have after := (behind.cons rfl).2
    exact (rest.blamed_resolve _ others after).bind fun _ _ => blamed_pure _

theorem Sequence.blamed_resolve : ∀ (sequence : Sequence) (offset : Nat), sequence.WellFormed →
    Text.StandsAt text offset sequence.yield → Blamed text (sequence.resolve offset)
  | .empty, _, _, _ => blamed_ok _
  | .cons piece rest, offset, ⟨wellFormed, others⟩, stands => by
    obtain ⟨front, behind⟩ := stands.append
    refine (piece.blamed_resolve offset wellFormed front).bind fun resolved accepted => ?_
    obtain ⟨-, rfl⟩ := (piece.resolve_eq_ok offset).mp accepted
    exact (rest.blamed_resolve _ others behind).bind fun _ _ => blamed_pure _

theorem Piece.blamed_resolve : ∀ (piece : Piece) (offset : Nat), piece.WellFormed →
    Text.StandsAt text offset piece.yield → Blamed text (piece.resolve offset)
  | .mk atom none, offset, ⟨wellFormed, _⟩, stands =>
    atom.blamed_resolve offset wellFormed stands.append.1
  | .mk atom (some quantifier), offset, ⟨wellFormed, bounded⟩, stands => by
    obtain ⟨front, behind⟩ := stands.append
    refine (atom.blamed_resolve offset wellFormed front).bind fun resolved accepted => ?_
    obtain ⟨-, rfl⟩ := (atom.resolve_eq_ok offset).mp accepted
    exact (Bounds.blamed_resolve (bounded quantifier rfl) behind.append.1).bind fun _ _ =>
      blamed_pure _

theorem Atom.blamed_resolve : ∀ (atom : Atom) (offset : Nat), atom.WellFormed →
    Text.StandsAt text offset atom.yield → Blamed text (atom.resolve offset)
  | .group opening body, offset, ⟨_, wellFormed⟩, stands =>
    (body.blamed_resolve _ wellFormed stands.append.1.append.2).bind fun _ _ => blamed_pure _
  | .charClass negated parts, offset, _, stands => by
    have inside := (stands.cons rfl).2.append.1.append.2
    refine (blamed_resolveParts parts ?_).bind fun _ _ => blamed_pure _
    cases negated <;> exact inside
  | .any, _, _, _ | .start, _, _, _ | .stop, _, _, _ | .literal _, _, _, _ => blamed_ok _
  | .escape character, _, _, _ => by
    unfold Atom.resolve
    cases Meaning.ofEscape character <;> exact blamed_ok _

end

end Derivation

/-! ### Patterns -/

namespace Pattern

open Rewind.Grammar

/-- The spans of an accepted pattern tile its text, and each of them covers some characters. A text
that is read but refused is refused for the characters that the span of the refusal covers.
Characters covered by a span are the ones shown for it, and where they start there is a line and
column. -/
theorem spans_tile_text (source : Source) :
    (∀ pattern, parse source.text = .ok pattern →
      pattern.span = ⟨0, byteLength source.text⟩ ∧ pattern.expr.span = pattern.span ∧
        pattern.expr.Tiled source.text) ∧
    (∀ error, parse source.text = .error error → (read source.text).1 ≠ none →
      ∃ characters, error.span.Covers source.text characters ∧ error.cause.Blames characters) ∧
    (∀ expr : Expr, expr.Tiled source.text → ∃ characters,
      expr.span.Covers source.text characters) ∧
    ∀ span characters, span.Covers source.text characters →
      source.slice span = characters ∧ source.place? span ≠ none := by
  refine ⟨fun pattern accepted => ?_, fun error refused wasRead => ?_, fun _ => Expr.Tiled.covers,
    fun _ _ => Span.Covers.shown⟩
  · obtain ⟨derivation, derives, -, rfl⟩ := parse_eq_ok_iff.mp accepted
    exact Alternation.tiled_pattern derives.regrouped
  · obtain ⟨derivation, found⟩ := Option.ne_none_iff_exists'.mp wasRead
    obtain ⟨⟨wellFormed, -⟩, same⟩ := read_eq_some.mp found
    have stands : Text.StandsAt source.text 0 derivation.yield := by
      rw [same]
      exact Text.standsAt_zero source.text
    rw [parse_of_read found] at refused
    exact (derivation.blamed_resolve 0 wellFormed stands).bind
      (fun _ _ => blamed_pure _) error refused

/-- The derivation of `é|b*`. -/
def accentedChoice : Alternation :=
  .either (.cons (.mk (.literal 'é') none) .empty)
    (.only (.cons (.mk (.literal 'b') (some ⟨.star, false⟩)) .empty))

/-- The derivation of `é{2,1}`. -/
def accentedBackwards : Alternation :=
  .only (.cons (.mk (.literal 'é') (some ⟨.range ['2'] (.upTo ['1']), false⟩)) .empty)

/-- Four characters in five bytes are tiled, and a backwards repetition is blamed from the third
byte on, which is where the second character starts. -/
theorem spans_tile_text_accented :
    (∃ pattern, parse ['é', '|', 'b', '*'] = .ok pattern ∧ pattern.span = ⟨0, 5⟩ ∧
      pattern.expr.Tiled ['é', '|', 'b', '*']) ∧
    ∃ error, parse ['é', '\x7b', '2', ',', '1', '\x7d'] = .error error ∧ error.span = ⟨2, 7⟩ ∧
      ∃ characters, error.span.Covers ['é', '\x7b', '2', ',', '1', '\x7d'] characters ∧
        error.cause.Blames characters := by
  have readChoice : (read ['é', '|', 'b', '*']).1 = some accentedChoice := by
    refine read_eq_some.mpr ⟨⟨?_, rfl⟩, rfl⟩
    simp [accentedChoice, Alternation.WellFormed, Sequence.WellFormed, Piece.WellFormed,
      Atom.WellFormed, Bounds.WellFormed, isSpecial]
  have readBackwards :
      (read ['é', '\x7b', '2', ',', '1', '\x7d']).1 = some accentedBackwards := by
    refine read_eq_some.mpr ⟨⟨?_, rfl⟩, rfl⟩
    simp [accentedBackwards, Alternation.WellFormed, Sequence.WellFormed, Piece.WellFormed,
      Atom.WellFormed, Bounds.WellFormed, Upper.WellFormed, IsNumber, isSpecial]
  constructor
  · have accepted := (parse_of_read_eq_ok readChoice).mpr ⟨by
      simp [accentedChoice, Alternation.Admissible, Sequence.Admissible, Piece.Admissible,
        Atom.Admissible, Bounds.Admissible], rfl⟩
    obtain ⟨whole, -, tiled⟩ := (spans_tile_text ⟨"accented", _⟩).1 _ accepted
    exact ⟨_, accepted, whole, tiled⟩
  · have refused := parse_of_read readBackwards
    refine ⟨_, refused, rfl, (spans_tile_text ⟨"accented", _⟩).2.1 _ refused ?_⟩
    rw [readBackwards]
    exact Option.some_ne_none _

end Pattern

end Rewind
