/-
This file reads text from bytes in UTF-8. The bytes are taken one after the other. A byte that
cannot go on with the character begun before it ends that character as a gap, and begins anew. So
bytes that are no text become a gap for every longest stretch that could have begun a character, and
text has no gaps.
-/

namespace Rewind.Text

/-- A character of which some bytes are still to come. -/
structure Unfinished where
  /-- What the bytes so far say about its code. -/
  code : Nat
  /-- The least byte that can come next. -/
  low : UInt8 := 0x80
  /-- The greatest byte that can come next. -/
  high : UInt8 := 0xbf
  /-- The number of bytes to come after the next. -/
  more : Nat
  deriving DecidableEq, Repr

/-- The character that a byte begins, if it begins one of several bytes. The second byte is kept to
what is neither too long a spelling, nor a surrogate, nor too large a code. -/
def beginning? (byte : UInt8) : Option Unfinished :=
  if 0xc2 ≤ byte ∧ byte ≤ 0xdf then some { code := byte.toNat - 0xc0, more := 0 }
  else if byte = 0xe0 then some { code := 0, low := 0xa0, more := 1 }
  else if byte = 0xed then some { code := 0xd, high := 0x9f, more := 1 }
  else if 0xe1 ≤ byte ∧ byte ≤ 0xef then some { code := byte.toNat - 0xe0, more := 1 }
  else if byte = 0xf0 then some { code := 0, low := 0x90, more := 2 }
  else if 0xf1 ≤ byte ∧ byte ≤ 0xf3 then some { code := byte.toNat - 0xf0, more := 2 }
  else if byte = 0xf4 then some { code := 4, high := 0x8f, more := 2 }
  else none

/-- What a byte between two characters gives: a whole character, the beginning of one, or a gap. -/
def beginCharacter (byte : UInt8) : List (Option Char) × Option Unfinished :=
  if byte < 0x80 then ([some (Char.ofNat byte.toNat)], none)
  else
    match beginning? byte with
    | some begun => ([], some begun)
    | none => ([none], none)

/-- What a byte gives behind the beginning of a character, or between two of them. -/
def takeByte : Option Unfinished → UInt8 → List (Option Char) × Option Unfinished
  | none, byte => beginCharacter byte
  | some begun, byte =>
    if begun.low ≤ byte ∧ byte ≤ begun.high then
      let code := begun.code * 64 + (byte.toNat - 0x80)
      match begun.more with
      | 0 => ([some (Char.ofNat code)], none)
      | more + 1 => ([], some { code := code, more := more })
    else (none :: (beginCharacter byte).1, (beginCharacter byte).2)

/-- The characters and gaps of some bytes that come behind the beginning of a character. -/
def readingsFrom : Option Unfinished → List UInt8 → List (Option Char)
  | none, [] => []
  | some _, [] => [none]
  | begun, byte :: bytes =>
    (takeByte begun byte).1 ++ readingsFrom (takeByte begun byte).2 bytes

/-- The characters and gaps of some bytes. -/
def readings (bytes : List UInt8) : List (Option Char) := readingsFrom none bytes

/-- The text that some bytes are, if they are text. -/
def decode? (bytes : List UInt8) : Option (List Char) := (readings bytes).mapM id

/-- The text of some bytes for display, with a replacement character for every gap. -/
def decodeLossy (bytes : List UInt8) : List Char :=
  (readings bytes).map fun reading => reading.getD '\ufffd'

/-- The bytes of a text. -/
def encode (text : List Char) : List UInt8 := text.flatMap String.utf8EncodeChar

end Rewind.Text
