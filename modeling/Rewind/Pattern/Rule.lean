/-
This file names the rules of the pattern grammar. A syntax error lists the rules that could have
gone on where reading stopped, always in the order in which they stand here.
-/

namespace Rewind

/-- A rule of the pattern grammar. -/
inductive Rule
  | endOfInput
  | pattern
  | alternation
  | sequence
  | repetition
  | group
  | atomic
  | ahead
  | notAhead
  | named
  | name
  | charClass
  | negate
  | classRange
  | classLiteral
  | any
  | start
  | stop
  | escape
  | char
  | quantifier
  | star
  | plus
  | question
  | range
  | comma
  | number
  | lazily
  deriving DecidableEq, Repr

namespace Rule

/-- How a rule is called in a message. -/
def label : Rule → String
  | endOfInput => "EOI"
  | pattern => "Pattern"
  | alternation => "Alternation"
  | sequence => "Sequence"
  | repetition => "Repeat"
  | group => "Group"
  | atomic => "Atomic"
  | ahead => "Ahead"
  | notAhead => "NotAhead"
  | named => "Named"
  | name => "Name"
  | charClass => "Class"
  | negate => "Negate"
  | classRange => "ClassRange"
  | classLiteral => "ClassLiteral"
  | any => "Any"
  | start => "Start"
  | stop => "End"
  | escape => "Escape"
  | char => "Char"
  | quantifier => "Quantifier"
  | star => "Star"
  | plus => "Plus"
  | question => "Question"
  | range => "Range"
  | comma => "Comma"
  | number => "Number"
  | lazily => "Lazy"

/-- Every rule once, in the order in which messages list them. -/
def all : List Rule :=
  [endOfInput, pattern, alternation, sequence, repetition, group, atomic, ahead, notAhead, named,
    name, charClass, negate, classRange, classLiteral, any, start, stop, escape, char, quantifier,
    star, plus, question, range, comma, number, lazily]

/-- The rules of a list in message order, each once. -/
def inOrder (rules : List Rule) : List Rule := all.filter fun rule => rules.contains rule

end Rule

end Rewind
