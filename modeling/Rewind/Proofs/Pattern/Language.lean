/-
This file defines the language of patterns by its grammar alone. A derivation is well-formed if
every character in it is one that its rule allows; a text is derived if it is the yield of a
well-formed derivation. Nothing is said about an order in which alternatives are tried: the grammar
is taken to be free of context, but for a caret right behind the bracket of a class, which always
negates the class.

Inside a class this leaves a choice, for a hyphen is also a character. A derivation is regrouped by
reading its classes again, from left to right, and taking every hyphen with a character on both
sides for a range.
-/

import Mathlib
import Rewind.Pattern.Grammar

namespace Rewind.Derivation

/-! ### Well-formed derivations -/

/-- `Escape | ClassLiteral` -/
def ClassChar.WellFormed : ClassChar → Prop
  | .escape _ => True
  | .literal character => character ≠ ']' ∧ character ≠ '\\'

/-- `ClassChar "-" ClassChar | ClassChar` -/
def ClassPart.WellFormed : ClassPart → Prop
  | .range low high => low.WellFormed ∧ high.WellFormed
  | .single character => character.WellFormed

/-- `ASCII_DIGIT+` -/
def IsNumber (digits : List Char) : Prop := digits ≠ [] ∧ ∀ digit ∈ digits, digit.isDigit = true

/-- `(ASCII_ALPHA | "_") (ASCII_ALPHANUMERIC | "_")*` -/
def IsName : List Char → Prop
  | [] => False
  | first :: others => (first.isAlpha || first == '_') = true ∧
    ∀ character ∈ others, (character.isAlphanum || character == '_') = true

/-- `(Comma Number?)?` -/
def Upper.WellFormed : Upper → Prop
  | .same | .unbounded => True
  | .upTo digits => IsNumber digits

/-- `Star | Plus | Question | Range` -/
def Bounds.WellFormed : Bounds → Prop
  | .star | .plus | .question => True
  | .range low high => IsNumber low ∧ high.WellFormed

/-- `GroupKind?` -/
def Opening.WellFormed : Opening → Prop
  | .plain | .atomic | .ahead | .notAhead => True
  | .named name => IsName name

mutual

/-- `Sequence ("|" Sequence)*` -/
def Alternation.WellFormed : Alternation → Prop
  | .only branch => branch.WellFormed
  | .either branch rest => branch.WellFormed ∧ rest.WellFormed

/-- `Repeat*` -/
def Sequence.WellFormed : Sequence → Prop
  | .empty => True
  | .cons piece rest => piece.WellFormed ∧ rest.WellFormed

/-- `Atom Quantifier?` -/
def Piece.WellFormed : Piece → Prop
  | .mk atom quantifier => atom.WellFormed ∧ ∀ written ∈ quantifier, written.bounds.WellFormed

/-- `Group | Class | Any | Start | End | Escape | Char`. A class that is not negated does not start
with a caret. -/
def Atom.WellFormed : Atom → Prop
  | .group opening body => opening.WellFormed ∧ body.WellFormed
  | .charClass negated parts => parts ≠ [] ∧ (∀ part ∈ parts, part.WellFormed) ∧
    (negated = false → (parts.flatMap ClassPart.yield).head? ≠ some '^')
  | .any | .start | .stop | .escape _ => True
  | .literal character => Grammar.isSpecial character = false

end

/-- A text has a derivation. -/
structure Derives (derivation : Alternation) (text : List Char) : Prop where
  wellFormed : derivation.WellFormed
  yield : derivation.yield = text

/-! ### Classes from left to right -/

/-- The characters of a class item, a hyphen between two others included. -/
def ClassPart.characters : ClassPart → List ClassChar
  | .range low high => [low, .literal '-', high]
  | .single character => [character]

/-- The items that some characters of a class are taken for, from left to right: a hyphen with a
character on both sides makes a range. -/
def ClassPart.grouped : List ClassChar → List ClassPart
  | [] => []
  | [character] => [.single character]
  | [character, other] => [.single character, .single other]
  | low :: middle :: high :: others =>
    if middle = .literal '-' then .range low high :: grouped others
    else .single low :: grouped (middle :: high :: others)

mutual

/-- An alternation whose classes are read again. -/
def Alternation.regrouped : Alternation → Alternation
  | .only branch => .only branch.regrouped
  | .either branch rest => .either branch.regrouped rest.regrouped

/-- A sequence whose classes are read again. -/
def Sequence.regrouped : Sequence → Sequence
  | .empty => .empty
  | .cons piece rest => .cons piece.regrouped rest.regrouped

/-- A piece whose classes are read again. -/
def Piece.regrouped : Piece → Piece
  | .mk atom quantifier => .mk atom.regrouped quantifier

/-- An atom whose classes are read again. -/
def Atom.regrouped : Atom → Atom
  | .group opening body => .group opening body.regrouped
  | .charClass negated parts =>
    .charClass negated (ClassPart.grouped (parts.flatMap ClassPart.characters))
  | .any => .any
  | .start => .start
  | .stop => .stop
  | .escape character => .escape character
  | .literal character => .literal character

end

/-! ### Regrouping -/

theorem ClassPart.grouped_range (low high : ClassChar) (others : List ClassChar) :
    grouped (low :: .literal '-' :: high :: others) = .range low high :: grouped others := by
  rw [grouped, if_pos rfl]

theorem ClassPart.grouped_single (character : ClassChar) {others : List ClassChar}
    (alone : ∀ high later, others ≠ .literal '-' :: high :: later) :
    grouped (character :: others) = .single character :: grouped others := by
  match others with
  | [] => rfl
  | [other] => rfl
  | middle :: high :: later =>
    rw [grouped, if_neg]
    exact fun same => alone high later (same ▸ rfl)

theorem ClassPart.flatMap_characters_grouped (characters : List ClassChar) :
    (grouped characters).flatMap ClassPart.characters = characters := by
  fun_induction grouped characters with
  | case1 => rfl
  | case2 character => rfl
  | case3 character other => rfl
  | case4 low high others inductionHypothesis =>
    rw [List.flatMap_cons, inductionHypothesis]
    rfl
  | case5 low middle high others different inductionHypothesis =>
    rw [List.flatMap_cons, inductionHypothesis]
    rfl

theorem ClassPart.yield_eq (part : ClassPart) :
    part.yield = part.characters.flatMap ClassChar.yield := by
  cases part with
  | range low high => simp [ClassPart.yield, characters, ClassChar.yield]
  | single character => simp [ClassPart.yield, characters]

/-- The text of a class does not depend on how its characters are grouped. -/
theorem ClassPart.flatMap_yield (parts : List ClassPart) :
    parts.flatMap ClassPart.yield =
      (parts.flatMap ClassPart.characters).flatMap ClassChar.yield := by
  rw [List.flatMap_assoc]
  exact congrArg (List.flatMap · parts) (funext ClassPart.yield_eq)

theorem ClassPart.wellFormed_iff (part : ClassPart) :
    part.WellFormed ↔ ∀ character ∈ part.characters, character.WellFormed := by
  cases part with
  | range low high => simp [WellFormed, characters, ClassChar.WellFormed]
  | single character => simp [WellFormed, characters]

theorem ClassPart.all_wellFormed_iff (parts : List ClassPart) :
    (∀ part ∈ parts, part.WellFormed) ↔
      ∀ character ∈ parts.flatMap ClassPart.characters, character.WellFormed := by
  simp only [List.mem_flatMap, forall_exists_index, and_imp, ClassPart.wellFormed_iff]
  exact ⟨fun all character part member => all part member character,
    fun all part member character => all character part member⟩

theorem ClassPart.grouped_eq_nil {characters : List ClassChar} :
    grouped characters = [] ↔ characters = [] := by
  constructor
  · intro none
    have same := flatMap_characters_grouped characters
    rw [none] at same
    exact same.symm
  · rintro rfl
    rfl

theorem ClassPart.flatMap_characters_eq_nil {parts : List ClassPart} :
    parts.flatMap ClassPart.characters = [] ↔ parts = [] := by
  rw [List.flatMap_eq_nil_iff]
  constructor
  · intro none
    cases parts with
    | nil => rfl
    | cons part others =>
      cases part <;> exact absurd (none _ List.mem_cons_self) (List.cons_ne_nil _ _)
  · rintro rfl
    exact fun _ impossible => nomatch impossible

mutual

theorem Alternation.yield_regrouped : ∀ alternation : Alternation,
    alternation.regrouped.yield = alternation.yield
  | .only branch => branch.yield_regrouped
  | .either branch rest =>
    congrArg₂ (fun first others => first ++ '|' :: others) branch.yield_regrouped
      rest.yield_regrouped

theorem Sequence.yield_regrouped : ∀ sequence : Sequence, sequence.regrouped.yield = sequence.yield
  | .empty => rfl
  | .cons piece rest => congrArg₂ (· ++ ·) piece.yield_regrouped rest.yield_regrouped

theorem Piece.yield_regrouped : ∀ piece : Piece, piece.regrouped.yield = piece.yield
  | .mk atom _ => congrArg (· ++ _) atom.yield_regrouped

theorem Atom.yield_regrouped : ∀ atom : Atom, atom.regrouped.yield = atom.yield
  | .group opening body => congrArg (opening.yield ++ · ++ [')']) body.yield_regrouped
  | .charClass negated parts => by
    rw [Atom.regrouped, Atom.yield, Atom.yield, ClassPart.flatMap_yield,
      ClassPart.flatMap_characters_grouped, ← ClassPart.flatMap_yield]
  | .any | .start | .stop | .escape _ | .literal _ => rfl

end

mutual

theorem Alternation.wellFormed_regrouped : ∀ alternation : Alternation, alternation.WellFormed →
    alternation.regrouped.WellFormed
  | .only branch, wellFormed => branch.wellFormed_regrouped wellFormed
  | .either branch rest, ⟨first, others⟩ =>
    ⟨branch.wellFormed_regrouped first, rest.wellFormed_regrouped others⟩

theorem Sequence.wellFormed_regrouped : ∀ sequence : Sequence, sequence.WellFormed →
    sequence.regrouped.WellFormed
  | .empty, _ => trivial
  | .cons piece rest, ⟨first, others⟩ =>
    ⟨piece.wellFormed_regrouped first, rest.wellFormed_regrouped others⟩

theorem Piece.wellFormed_regrouped : ∀ piece : Piece, piece.WellFormed → piece.regrouped.WellFormed
  | .mk atom _, ⟨wellFormed, quantified⟩ => ⟨atom.wellFormed_regrouped wellFormed, quantified⟩

theorem Atom.wellFormed_regrouped : ∀ atom : Atom, atom.WellFormed → atom.regrouped.WellFormed
  | .group _ body, ⟨opens, wellFormed⟩ => ⟨opens, body.wellFormed_regrouped wellFormed⟩
  | .charClass negated parts, ⟨nonempty, all, caret⟩ => by
    refine ⟨fun none => nonempty ?_, ?_, fun plain => ?_⟩
    · exact ClassPart.flatMap_characters_eq_nil.mp (ClassPart.grouped_eq_nil.mp none)
    · rw [ClassPart.all_wellFormed_iff, ClassPart.flatMap_characters_grouped]
      exact (ClassPart.all_wellFormed_iff parts).mp all
    · rw [ClassPart.flatMap_yield, ClassPart.flatMap_characters_grouped, ← ClassPart.flatMap_yield]
      exact caret plain
  | .any, _ | .start, _ | .stop, _ | .escape _, _ => trivial
  | .literal _, ordinary => ordinary

end

mutual

theorem Alternation.regrouped_regrouped : ∀ alternation : Alternation,
    alternation.regrouped.regrouped = alternation.regrouped
  | .only branch => congrArg Alternation.only branch.regrouped_regrouped
  | .either branch rest =>
    congrArg₂ Alternation.either branch.regrouped_regrouped rest.regrouped_regrouped

theorem Sequence.regrouped_regrouped : ∀ sequence : Sequence,
    sequence.regrouped.regrouped = sequence.regrouped
  | .empty => rfl
  | .cons piece rest => congrArg₂ Sequence.cons piece.regrouped_regrouped rest.regrouped_regrouped

theorem Piece.regrouped_regrouped : ∀ piece : Piece, piece.regrouped.regrouped = piece.regrouped
  | .mk atom quantifier => congrArg (Piece.mk · quantifier) atom.regrouped_regrouped

theorem Atom.regrouped_regrouped : ∀ atom : Atom, atom.regrouped.regrouped = atom.regrouped
  | .group opening body => congrArg (Atom.group opening) body.regrouped_regrouped
  | .charClass negated _ =>
    congrArg (fun characters => Atom.charClass negated (ClassPart.grouped characters))
      (ClassPart.flatMap_characters_grouped _)
  | .any | .start | .stop | .escape _ | .literal _ => rfl

end

/-- Regrouping keeps the text. -/
theorem Derives.regrouped {derivation : Alternation} {text : List Char}
    (derives : Derives derivation text) : Derives derivation.regrouped text :=
  ⟨derivation.wellFormed_regrouped derives.wellFormed,
    derivation.yield_regrouped.trans derives.yield⟩

end Rewind.Derivation
