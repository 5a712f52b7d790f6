/-
This file gathers the numbers that describe a store, and writes them in a line of text. The share
that is free is written with one digit behind the point: the exact value of the floating-point
number is rounded to the nearest tenth, and a tie goes to the even one.
-/

import Rewind.Store.Basic

namespace Rewind.Text

/-- A quotient rounded to the nearest natural number; of two that are equally near, the even one. -/
def roundedQuotient (dividend divisor : Nat) : Nat :=
  let quotient := dividend / divisor
  let remainder := dividend % divisor
  if 2 * remainder < divisor then quotient
  else if divisor < 2 * remainder then quotient + 1
  else quotient + quotient % 2

/-- A finite double as its significand and the exponent of its power of two, both read off its bits.
The exponent is raised by 1074, which makes it a natural number. -/
def significand (bits : Nat) : Nat × Nat :=
  let fraction := bits % 0x10000000000000
  let exponent := bits / 0x10000000000000 % 0x800
  if exponent = 0 then (fraction, 0) else (fraction + 0x10000000000000, exponent - 1)

/-- The absolute value of a finite double in tenths, rounded. -/
def tenths (bits : Nat) : Nat :=
  let (fraction, exponent) := significand bits
  roundedQuotient (fraction * Nat.pow 2 exponent * 10) (Nat.pow 2 1074)

/-- A finite number with one digit behind the point. -/
def oneDecimal (number : Float) : String :=
  let bits := number.toBits.toNat
  let tenths := tenths bits
  let sign := if 0x8000000000000000 ≤ bits then "-" else ""
  sign ++ toString (tenths / 10) ++ "." ++ toString (tenths % 10)

end Rewind.Text

namespace Rewind

/-- Numbers that describe a store as it is seen from its newest generation. -/
structure Statistics where
  heapSize : Nat
  usedCells : Nat
  freeCells : Nat
  /-- The percentage of the heap that is free. -/
  freeSpace : Float
  stackSize : Nat
  stackLevels : Nat
  chainLength : Nat
  sweepThreshold : Nat
  /-- The id of the newest generation. -/
  generation : Nat

/-- The numbers of a store. -/
def Store.statistics (store : Store) : Statistics :=
  let counters := store.chain.counters
  { heapSize := counters.heapSize
    usedCells := counters.usedCells
    freeCells := counters.freeCells
    freeSpace := counters.freeSpace
    stackSize := counters.stackSize
    stackLevels := counters.levelCount
    chainLength := store.chain.length
    sweepThreshold := counters.sweepThreshold
    generation := store.chain.tail.id }

/-- The numbers in a line of text. -/
def Statistics.summary (statistics : Statistics) : String :=
  "heap: " ++ toString statistics.heapSize ++ " cells (" ++ toString statistics.usedCells
    ++ " used, " ++ toString statistics.freeCells ++ " free, "
    ++ Text.oneDecimal statistics.freeSpace ++ "% free space), stack: "
    ++ toString statistics.stackSize ++ " bindings in " ++ toString statistics.stackLevels
    ++ " levels, chain: " ++ toString statistics.chainLength ++ " generations (current #"
    ++ toString statistics.generation ++ "), gc threshold: "
    ++ toString statistics.sweepThreshold

end Rewind
