/-
This file defines patterns as expressions. Every expression carries the span of the source it was
read from.
-/

import Rewind.Pattern.CharClass
import Rewind.Pattern.Span

namespace Rewind

/-- An end of the text. -/
inductive Anchor
  | start
  | stop
  deriving DecidableEq, Repr

/-- What a group is for. -/
inductive GroupKind
  /-- `( )` only groups. -/
  | plain
  /-- `(?<name> )` records what its body matched. -/
  | named (name : String)
  /-- `(?> )` keeps the first way its body matches. -/
  | atomic
  /-- `(?= )` asks that its body matches here, and consumes nothing. -/
  | ahead
  /-- `(?! )` asks that its body does not match here. -/
  | notAhead
  deriving DecidableEq, Repr

/-- An expression of a pattern. -/
inductive Expr
  /-- A literal character, its escape resolved. -/
  | char (value : Char) (span : Span)
  /-- `.`, any character but a line feed. -/
  | any (span : Span)
  /-- `^` or `$`. -/
  | anchor (anchor : Anchor) (span : Span)
  /-- A character class or one of its shorthands. -/
  | charClass (set : CharClass) (span : Span)
  /-- An expression in parentheses. -/
  | group (kind : GroupKind) (body : Expr) (span : Span)
  /-- An expression with a quantifier. -/
  | repetition (body : Expr) (min : Nat) (max : Option Nat) (lazily : Bool) (span : Span)
  /-- Expressions to match one after the other; there may be none. -/
  | sequence (items : List Expr) (span : Span)
  /-- Expressions to choose from. -/
  | alternation (branches : List Expr) (span : Span)

/-- The source an expression was read from. -/
def Expr.span : Expr → Span
  | .char _ span | .any span | .anchor _ span | .charClass _ span | .group _ _ span
  | .repetition _ _ _ _ span | .sequence _ span | .alternation _ span => span

/-- Several items are a sequence; a single one stands for itself. -/
def Expr.ofItems (span : Span) : List Expr → Expr
  | [item] => item
  | items => .sequence items span

/-- Several branches are an alternation; a single one stands for itself. -/
def Expr.ofBranches (span : Span) : List Expr → Expr
  | [branch] => branch
  | branches => .alternation branches span

/-- A complete pattern. -/
structure Pattern where
  expr : Expr
  span : Span

end Rewind
