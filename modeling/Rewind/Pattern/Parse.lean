/-
This file reads patterns: a text is first derived from the grammar, and its derivation is resolved
into an expression. That walks the derivation from left to right with the offset reached so far, so
every part gets the span of the bytes it was written with; on the way it settles what escapes stand
for and refuses what the grammar alone cannot: repetitions and ranges that are backwards, counts
that do not fit into 32 bits, and shorthands where there is no place for them. The first part that
has to be refused is the one reported.
-/

import Rewind.Pattern.Expr
import Rewind.Pattern.Grammar
import Rewind.Pattern.ParseError

namespace Rewind.Derivation

open Text (byteLength)

/-- The bytes that some characters take when they start at an offset. -/
def spanAt (offset : Nat) (characters : List Char) : Span :=
  { start := offset, stop := offset + byteLength characters }

/-! ### Escapes -/

/-- What a backslash with a character behind it stands for. -/
inductive Meaning
  | char (character : Char)
  | shorthand (item : ClassItem) (negated : Bool)
  deriving DecidableEq, Repr

/-- The meaning of an escape: a shorthand, a control character, or the character itself. -/
def Meaning.ofEscape (character : Char) : Meaning :=
  match character with
  | 'd' => .shorthand .digit false
  | 'w' => .shorthand .word false
  | 's' => .shorthand .space false
  | 'D' => .shorthand .digit true
  | 'W' => .shorthand .word true
  | 'S' => .shorthand .space true
  | 'n' => .char '\n'
  | 't' => .char '\t'
  | 'r' => .char '\r'
  | character => .char character

/-! ### Classes -/

/-- The meaning of a class character. There is no negated shorthand in a class. -/
def ClassChar.resolve (offset : Nat) (written : ClassChar) : Except ParseError Meaning :=
  match written with
  | .literal character => .ok (.char character)
  | .escape character =>
    match Meaning.ofEscape character with
    | .shorthand _ true =>
      .error { span := spanAt offset written.yield, cause := .negatedShorthand }
    | meaning => .ok meaning

/-- The item a part of a class stands for. -/
def ClassPart.resolve (offset : Nat) (part : ClassPart) : Except ParseError ClassItem :=
  match part with
  | .single character => do
    match ← character.resolve offset with
    | .char value => return .range value value
    | .shorthand item _ => return item
  | .range low high => do
    let lowMeaning ← low.resolve offset
    let highMeaning ← high.resolve (offset + byteLength low.yield + 1)
    match lowMeaning, highMeaning with
    | .char first, .char last =>
      if first ≤ last then return .range first last
      else throw { span := spanAt offset part.yield, cause := .backwardsClassRange first last }
    | _, _ => throw { span := spanAt offset part.yield, cause := .shorthandInRange }

/-- The items the parts of a class stand for, the first part starting at an offset. -/
def resolveParts (offset : Nat) : List ClassPart → Except ParseError (List ClassItem)
  | [] => .ok []
  | part :: parts => do
    let item ← part.resolve offset
    let items ← resolveParts (offset + byteLength part.yield) parts
    return item :: items

/-! ### Repetitions -/

/-- The number some decimal digits stand for. -/
def decimal (digits : List Char) : Nat :=
  digits.foldl (fun value digit => 10 * value + (digit.toNat - '0'.toNat)) 0

/-- A bound of a repetition, which must fit into 32 bits. -/
def resolveCount (offset : Nat) (digits : List Char) : Except ParseError Nat :=
  if decimal digits < 0x100000000 then .ok (decimal digits)
  else .error { span := spanAt offset digits, cause := .countTooLarge }

/-- The least and the greatest number of repetitions some bounds allow. -/
def Bounds.resolve (offset : Nat) (bounds : Bounds) : Except ParseError (Nat × Option Nat) :=
  match bounds with
  | .star => .ok (0, none)
  | .plus => .ok (1, none)
  | .question => .ok (0, some 1)
  | .range low high => do
    let min ← resolveCount (offset + 1) low
    match high with
    | .same => return (min, some min)
    | .unbounded => return (min, none)
    | .upTo digits =>
      let max ← resolveCount (offset + 1 + byteLength low + 1) digits
      if max < min then
        throw { span := spanAt offset bounds.yield, cause := .backwardsRepetition min max }
      else return (min, some max)

/-! ### Expressions -/

/-- The kind of group an opening starts. -/
def Opening.kind : Opening → GroupKind
  | .plain => .plain
  | .atomic => .atomic
  | .ahead => .ahead
  | .notAhead => .notAhead
  | .named name => .named (String.ofList name)

mutual

/-- The branches of an alternation that starts at an offset, and the offset behind it. -/
def Alternation.resolve (offset : Nat) : Alternation → Except ParseError (List Expr × Nat)
  | .only branch => do
    let (items, stop) ← branch.resolve offset
    return ([Expr.ofItems { start := offset, stop := stop } items], stop)
  | .either branch rest => do
    let (items, stop) ← branch.resolve offset
    let (branches, last) ← rest.resolve (stop + 1)
    return (Expr.ofItems { start := offset, stop := stop } items :: branches, last)

/-- The items of a sequence that starts at an offset, and the offset behind it. -/
def Sequence.resolve (offset : Nat) : Sequence → Except ParseError (List Expr × Nat)
  | .empty => .ok ([], offset)
  | .cons piece rest => do
    let (item, stop) ← piece.resolve offset
    let (items, last) ← rest.resolve stop
    return (item :: items, last)

/-- The expression of a piece that starts at an offset, and the offset behind it. -/
def Piece.resolve (offset : Nat) : Piece → Except ParseError (Expr × Nat)
  | .mk atom none => atom.resolve offset
  | .mk atom (some quantifier) => do
    let (body, stop) ← atom.resolve offset
    let (min, max) ← quantifier.bounds.resolve stop
    let last := stop + byteLength quantifier.yield
    return (.repetition body min max quantifier.lazily { start := offset, stop := last }, last)

/-- The expression of an atom that starts at an offset, and the offset behind it. -/
def Atom.resolve (offset : Nat) : Atom → Except ParseError (Expr × Nat)
  | .group opening body => do
    let inner := offset + byteLength opening.yield
    let (branches, stop) ← body.resolve inner
    let span : Span := { start := offset, stop := stop + 1 }
    return (.group opening.kind (Expr.ofBranches { start := inner, stop := stop } branches) span,
      stop + 1)
  | .charClass negated parts => do
    let inner := offset + 1 + if negated then 1 else 0
    let items ← resolveParts inner parts
    let stop := inner + byteLength (parts.flatMap ClassPart.yield) + 1
    return (.charClass { negated := negated, items := items } { start := offset, stop := stop },
      stop)
  | .any => .ok (.any { start := offset, stop := offset + 1 }, offset + 1)
  | .start => .ok (.anchor .start { start := offset, stop := offset + 1 }, offset + 1)
  | .stop => .ok (.anchor .stop { start := offset, stop := offset + 1 }, offset + 1)
  | .escape character =>
    let span : Span := spanAt offset ['\\', character]
    match Meaning.ofEscape character with
    | .char value => .ok (.char value span, span.stop)
    | .shorthand item negated =>
      .ok (.charClass { negated := negated, items := [item] } span, span.stop)
  | .literal character =>
    let span : Span := spanAt offset [character]
    .ok (.char character span, span.stop)

end

end Rewind.Derivation

namespace Rewind.Pattern

/-- The pattern a text stands for, or why it stands for none. -/
def parse (text : List Char) : Except ParseError Pattern :=
  match Grammar.read text with
  | (none, furthest) =>
    .error
      { span := { start := furthest.offset, stop := furthest.offset },
        cause := .expected (Rule.inOrder furthest.attempts) }
  | (some derivation, _) => do
    let (branches, stop) ← derivation.resolve 0
    let span : Span := { start := 0, stop := stop }
    return { expr := Expr.ofBranches span branches, span := span }

end Rewind.Pattern
