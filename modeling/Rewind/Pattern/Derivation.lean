/-
This file defines the derivations of the pattern language: one constructor for every way a rule of
its grammar can be applied. The text a derivation stands for, its yield, can be read off it; the
language is the set of the yields.

A derivation keeps what was written and judges nothing. That a repetition is not backwards, or
that the ends of a range are characters, is settled when it is resolved into an expression.
-/

namespace Rewind.Derivation

/-- A character of a class, as written. -/
inductive ClassChar
  /-- A backslash and the character behind it. -/
  | escape (character : Char)
  | literal (character : Char)
  deriving DecidableEq, Repr

/-- An item of a class, as written. -/
inductive ClassPart
  | range (low high : ClassChar)
  | single (character : ClassChar)
  deriving DecidableEq, Repr

/-- What stands behind the lower bound of `{min}`, `{min,}` or `{min,max}`. -/
inductive Upper
  | same
  | unbounded
  | upTo (digits : List Char)
  deriving DecidableEq, Repr

/-- The bounds of a quantifier, as written. -/
inductive Bounds
  | star
  | plus
  | question
  | range (low : List Char) (high : Upper)
  deriving DecidableEq, Repr

/-- A quantifier; a question mark behind the bounds makes it lazy. -/
structure Quantifier where
  bounds : Bounds
  lazily : Bool
  deriving DecidableEq, Repr

/-- What stands behind the opening parenthesis of a group. -/
inductive Opening
  | plain
  | atomic
  | ahead
  | notAhead
  | named (name : List Char)
  deriving DecidableEq, Repr

mutual

/-- Branches with a bar between each two of them. -/
inductive Alternation
  | only (branch : Sequence)
  | either (branch : Sequence) (rest : Alternation)

/-- Pieces one after the other. -/
inductive Sequence
  | empty
  | cons (piece : Piece) (rest : Sequence)

/-- An atom, with or without a quantifier. -/
inductive Piece
  | mk (atom : Atom) (quantifier : Option Quantifier)

/-- The smallest parts of a pattern that can be quantified. -/
inductive Atom
  | group (opening : Opening) (body : Alternation)
  | charClass (negated : Bool) (parts : List ClassPart)
  | any
  | start
  | stop
  | escape (character : Char)
  | literal (character : Char)

end

/-! ### Building derivations from lists -/

/-- The sequence of some pieces. -/
def Sequence.ofList : List Piece → Sequence
  | [] => .empty
  | piece :: pieces => .cons piece (.ofList pieces)

/-- The alternation of a first branch and some more. -/
def Alternation.ofList (first : Sequence) : List Sequence → Alternation
  | [] => .only first
  | second :: branches => .either first (.ofList second branches)

/-! ### The text of a derivation -/

/-- The text of a class character. -/
def ClassChar.yield : ClassChar → List Char
  | .escape character => ['\\', character]
  | .literal character => [character]

/-- The text of a class item. -/
def ClassPart.yield : ClassPart → List Char
  | .range low high => low.yield ++ '-' :: high.yield
  | .single character => character.yield

/-- The text of the upper bound, with the comma before it. -/
def Upper.yield : Upper → List Char
  | .same => []
  | .unbounded => [',']
  | .upTo digits => ',' :: digits

/-- The text of the bounds. -/
def Bounds.yield : Bounds → List Char
  | .star => ['*']
  | .plus => ['+']
  | .question => ['?']
  | .range low high => '\x7b' :: (low ++ high.yield ++ ['\x7d'])

/-- The text of a quantifier. -/
def Quantifier.yield (quantifier : Quantifier) : List Char :=
  quantifier.bounds.yield ++ if quantifier.lazily then ['?'] else []

/-- The text of an opening, parenthesis included. -/
def Opening.yield : Opening → List Char
  | .plain => ['(']
  | .atomic => ['(', '?', '>']
  | .ahead => ['(', '?', '=']
  | .notAhead => ['(', '?', '!']
  | .named name => '(' :: '?' :: '<' :: (name ++ ['>'])

mutual

/-- The text of an alternation. -/
def Alternation.yield : Alternation → List Char
  | .only branch => branch.yield
  | .either branch rest => branch.yield ++ '|' :: rest.yield

/-- The text of a sequence. -/
def Sequence.yield : Sequence → List Char
  | .empty => []
  | .cons piece rest => piece.yield ++ rest.yield

/-- The text of a piece. -/
def Piece.yield : Piece → List Char
  | .mk atom quantifier => atom.yield ++ (quantifier.map Quantifier.yield).getD []

/-- The text of an atom. -/
def Atom.yield : Atom → List Char
  | .group opening body => opening.yield ++ body.yield ++ [')']
  | .charClass negated parts =>
    '[' :: ((if negated then ['^'] else []) ++ parts.flatMap ClassPart.yield ++ [']'])
  | .any => ['.']
  | .start => ['^']
  | .stop => ['$']
  | .escape character => ['\\', character]
  | .literal character => [character]

end

end Rewind.Derivation
