/-
This file defines why a text is not a pattern, and how the user is told.
-/

import Rewind.Pattern.Rule
import Rewind.Pattern.Span
import Rewind.Text.Quoted

namespace Rewind

/-- Why a text is not a pattern. -/
inductive ParseError.Cause
  /-- No derivation; these rules could have gone on. -/
  | expected (rules : List Rule)
  /-- The upper bound of a repetition is below the lower one. -/
  | backwardsRepetition (min max : Nat)
  /-- A bound of a repetition does not fit into 32 bits. -/
  | countTooLarge
  /-- The ends of a class range are in the wrong order. -/
  | backwardsClassRange (low high : Char)
  /-- A shorthand stands at an end of a class range. -/
  | shorthandInRange
  /-- A negated shorthand stands in a class. -/
  | negatedShorthand
  deriving DecidableEq, Repr

/-- Why a text is not a pattern, and where. -/
structure ParseError where
  span : Span
  cause : ParseError.Cause
  deriving DecidableEq, Repr

namespace ParseError

/-- The wording of a cause. -/
def Cause.message : Cause → String
  | .expected [] => "unexpected character"
  | .expected rules => "expected one of: " ++ ", ".intercalate (rules.map Rule.label)
  | .backwardsRepetition min max =>
    "repetition range " ++ toString min ++ "," ++ toString max ++ " is backwards"
  | .countTooLarge => "repetition count is too large"
  | .backwardsClassRange low high =>
    "class range " ++ Text.quotedChar low ++ "-" ++ Text.quotedChar high ++ " is backwards"
  | .shorthandInRange => "class ranges must be between characters"
  | .negatedShorthand => "negated shorthands are not allowed here"

/-- The wording of an error. -/
def message (error : ParseError) : String := error.cause.message

/-- The line that reports an error in some source. -/
def report (error : ParseError) (source : Source) : String :=
  "error: " ++ source.locate error.span ++ ": " ++ error.message

end ParseError

end Rewind
