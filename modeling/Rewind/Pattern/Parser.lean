/-
This file defines parsers with ordered choice. A parser either reads some of the input or fails and
reads nothing; of two alternatives the second is tried only where the first fails, and repetition
goes on for as long as it can. Failures leave a trace in the record of the furthest one, which
survives backtracking.

The record holds the furthest offset at which a rule has failed, and the rules that failed there.
When no way of reading the input succeeds, they are what the error message lists. A rule that fails
stands for the rules that failed inside of it at the same offset, unless exactly one did: then that
one is the better explanation, and the outer rule is not recorded.
-/

import Rewind.Pattern.Rule

namespace Rewind

/-! ### The furthest failure -/

/-- The furthest offset at which a rule failed, and the rules that failed there, oldest first. -/
structure Furthest where
  offset : Nat := 0
  attempts : List Rule := []
  deriving DecidableEq, Repr

namespace Furthest

/-- The number of attempts recorded at an offset. -/
def countAt (furthest : Furthest) (offset : Nat) : Nat :=
  if offset = furthest.offset then furthest.attempts.length else 0

/-- Records that a rule failed at an offset, where `before` attempts were known when it was
entered. -/
def record (furthest : Furthest) (rule : Rule) (offset before : Nat) : Furthest :=
  if furthest.countAt offset = before + 1 then furthest
  else if offset = furthest.offset then
    { furthest with attempts := furthest.attempts.take before ++ [rule] }
  else if furthest.offset < offset then { offset := offset, attempts := [rule] }
  else furthest

end Furthest

/-! ### Parsers -/

/-- What is left to read, and the byte offset it starts at. -/
structure Input where
  rest : List Char
  offset : Nat
  deriving DecidableEq, Repr

/-- A parser reads from the input and notes where rules fail. -/
def Parser (α : Type) : Type := Input → Furthest → Option (α × Input) × Furthest

namespace Parser

variable {α β : Type}

instance : Monad Parser where
  pure value := fun input furthest => (some (value, input), furthest)
  bind parser next := fun input furthest =>
    match parser input furthest with
    | (some (value, input), furthest) => next value input furthest
    | (none, furthest) => (none, furthest)

instance : Alternative Parser where
  failure := fun _ furthest => (none, furthest)
  orElse first second := fun input furthest =>
    match first input furthest with
    | (some result, furthest) => (some result, furthest)
    | (none, furthest) => second () input furthest

/-- Reads one character that passes a test. -/
def charWhere (accepts : Char → Bool) : Parser Char := fun input furthest =>
  match input.rest with
  | character :: rest =>
    if accepts character then
      (some (character, { rest := rest, offset := input.offset + character.utf8Size }), furthest)
    else (none, furthest)
  | [] => (none, furthest)

/-- Reads one given character. -/
def exactly (character : Char) : Parser Unit := do
  let _ ← charWhere (· == character)

/-- Reads nothing, and only where nothing is left. -/
def atEnd : Parser Unit := fun input furthest =>
  if input.rest.isEmpty then (some ((), input), furthest) else (none, furthest)

/-- Runs the body of a rule, and records the rule if it fails. -/
def rule (label : Rule) (body : Parser α) : Parser α := fun input furthest =>
  match body input furthest with
  | (some result, after) => (some result, after)
  | (none, after) => (none, after.record label input.offset (furthest.countAt input.offset))

/-- Reads what the parser accepts, or nothing. -/
def optionally (parser : Parser α) : Parser (Option α) :=
  (some <$> parser) <|> pure none

/-- Reads as often as the parser accepts, at most `limit` times. -/
def manyUpTo (parser : Parser α) : Nat → Parser (List α)
  | 0 => pure []
  | limit + 1 =>
    (do
      let first ← parser
      let others ← manyUpTo parser limit
      pure (first :: others)) <|> pure []

/-- Reads as often as the parser accepts. The parser must not accept nothing: then it succeeds at
most once per character left, and fails one more time at the end. -/
def many (parser : Parser α) : Parser (List α) := fun input =>
  manyUpTo parser (input.rest.length + 1) input

/-- Reads at least once, and then as often as the parser accepts. -/
def manyOnce (parser : Parser α) : Parser (List α) := do
  let first ← parser
  let others ← many parser
  pure (first :: others)

end Parser

end Rewind
