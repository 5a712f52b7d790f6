/-
This file is the grammar of the pattern language, rule by rule, as parsers of derivations. No rule
skips blanks: every character of a pattern counts.

Groups make the grammar recursive. The parser of alternations is therefore built in layers: each
layer may open groups whose bodies belong to the layer below. An opening parenthesis is read before
a layer is used up, so a pattern never needs more layers than it has characters.
-/

import Rewind.Pattern.Derivation
import Rewind.Pattern.Parser

namespace Rewind.Grammar

open Rewind.Parser Rewind.Derivation

/-! ### Names, numbers and escapes -/

/-- `Name = (ASCII_ALPHA | "_") (ASCII_ALPHANUMERIC | "_")*` -/
def name : Parser (List Char) := rule .name do
  let first ← charWhere fun character => character.isAlpha || character == '_'
  let others ← many (charWhere fun character => character.isAlphanum || character == '_')
  pure (first :: others)

/-- `Number = ASCII_DIGIT+` -/
def number : Parser (List Char) := rule .number (manyOnce (charWhere Char.isDigit))

/-- `Escape = "\" ANY` -/
def escape : Parser Char := rule .escape do
  exactly '\\'
  charWhere fun _ => true

/-! ### Classes -/

/-- `ClassLiteral = !("]" | "\") ANY` -/
def classLiteral : Parser Char :=
  rule .classLiteral (charWhere fun character => character != ']' && character != '\\')

/-- `ClassChar = Escape | ClassLiteral` -/
def classChar : Parser ClassChar := (.escape <$> escape) <|> (.literal <$> classLiteral)

/-- `ClassRange = ClassChar "-" ClassChar` -/
def classRange : Parser ClassPart := rule .classRange do
  let low ← classChar
  exactly '-'
  let high ← classChar
  pure (.range low high)

/-- `ClassItem = ClassRange | ClassChar` -/
def classPart : Parser ClassPart := classRange <|> (.single <$> classChar)

/-- `Class = "[" Negate? ClassItem+ "]"`, where `Negate = "^"` -/
def charClass : Parser Atom := rule .charClass do
  exactly '['
  let negation ← optionally (rule .negate (exactly '^'))
  let parts ← manyOnce classPart
  exactly ']'
  pure (.charClass negation.isSome parts)

/-! ### Quantifiers -/

/-- `(Comma Number?)?`, where `Comma = ","` -/
def upper : Parser Upper := do
  let bound ← optionally do
    rule .comma (exactly ',')
    optionally number
  pure <| match bound with
    | none => .same
    | some none => .unbounded
    | some (some digits) => .upTo digits

/-- `Range = "{" Number (Comma Number?)? "}"` -/
def range : Parser Bounds := rule .range do
  exactly '\x7b'
  let low ← number
  let high ← upper
  exactly '\x7d'
  pure (.range low high)

/-- `Star | Plus | Question | Range` -/
def bounds : Parser Bounds :=
  (do rule .star (exactly '*'); pure .star) <|>
  (do rule .plus (exactly '+'); pure .plus) <|>
  (do rule .question (exactly '?'); pure .question) <|>
  range

/-- `Quantifier = (Star | Plus | Question | Range) Lazy?`, where `Lazy = "?"` -/
def quantifier : Parser Quantifier := rule .quantifier do
  let bounds ← bounds
  let mark ← optionally (rule .lazily (exactly '?'))
  pure { bounds := bounds, lazily := mark.isSome }

/-! ### Atoms and what they are put together to -/

/-- `Named = "?<" Name ">"` -/
def named : Parser Opening := rule .named do
  exactly '?'
  exactly '<'
  let name ← name
  exactly '>'
  pure (.named name)

/-- `Atomic | Ahead | NotAhead | Named`, which are `"?>"`, `"?="`, `"?!"` and a name. -/
def groupKind : Parser Opening :=
  (do rule .atomic (do exactly '?'; exactly '>'); pure .atomic) <|>
  (do rule .ahead (do exactly '?'; exactly '='); pure .ahead) <|>
  (do rule .notAhead (do exactly '?'; exactly '!'); pure .notAhead) <|>
  named

/-- `Group = "(" GroupKind? Alternation ")"` -/
def group (body : Parser Alternation) : Parser Atom := rule .group do
  exactly '('
  let kind ← optionally groupKind
  let alternation ← body
  exactly ')'
  pure (.group (kind.getD .plain) alternation)

/-- The characters that stand for something else than themselves outside of classes. -/
def isSpecial (character : Char) : Bool :=
  ['|', '(', ')', '*', '+', '?', '[', '\x7b', '.', '^', '$', '\\'].contains character

/-- `Atom = Group | Class | Any | Start | End | Escape | Char` -/
def atom (body : Parser Alternation) : Parser Atom :=
  group body <|>
  charClass <|>
  (do rule .any (exactly '.'); pure .any) <|>
  (do rule .start (exactly '^'); pure .start) <|>
  (do rule .stop (exactly '$'); pure .stop) <|>
  (.escape <$> escape) <|>
  (.literal <$> rule .char (charWhere fun character => !isSpecial character))

/-- `Repeat = Atom Quantifier?` -/
def piece (body : Parser Alternation) : Parser Piece := rule .repetition do
  let atom ← atom body
  let quantifier ← optionally quantifier
  pure (.mk atom quantifier)

/-- `Sequence = Repeat*` -/
def sequence (body : Parser Alternation) : Parser Sequence :=
  Sequence.ofList <$> rule .sequence (many (piece body))

/-- `Alternation = Sequence ("|" Sequence)*`, with groups nested at most `layers` deep. -/
def alternation : Nat → Parser Alternation
  | 0 => failure
  | layers + 1 => rule .alternation do
    let first ← sequence (alternation layers)
    let others ← many do
      exactly '|'
      sequence (alternation layers)
    pure (Alternation.ofList first others)

/-- `Pattern = Alternation EOI` -/
def pattern (layers : Nat) : Parser Alternation := rule .pattern do
  let alternation ← alternation layers
  rule .endOfInput atEnd
  pure alternation

/-- Reads a whole text as a pattern. -/
def read (text : List Char) : Option Alternation × Furthest :=
  match pattern (text.length + 1) { rest := text, offset := 0 } {} with
  | (some (derivation, _), furthest) => (some derivation, furthest)
  | (none, furthest) => (none, furthest)

end Rewind.Grammar
