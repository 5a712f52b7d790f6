/-
This file writes characters and texts between quotation marks, so that a reader can tell exactly
which characters they hold: the mark itself and the backslash are escaped, four controls have
letters of their own, and every other character that does not show is written as its code point.
-/

import Rewind.Text.Unprintable

namespace Rewind.Text

/-- The mark a quotation opens and closes with. -/
inductive QuotationMark
  | single
  | double
  deriving DecidableEq

/-- The character of a quotation mark. -/
def QuotationMark.character : QuotationMark → Char
  | .single => '\x27'
  | .double => '\x22'

/-- A code point in lower-case hexadecimal, between braces. -/
def bracedCodePoint (character : Char) : List Char :=
  '\x7b' :: (Nat.toDigits 16 character.toNat ++ ['\x7d'])

/-- How one character is written inside a quotation. -/
def escaped (mark : QuotationMark) (character : Char) : List Char :=
  if character = '\x00' then ['\\', '0']
  else if character = '\t' then ['\\', 't']
  else if character = '\r' then ['\\', 'r']
  else if character = '\n' then ['\\', 'n']
  else if character = '\\' ∨ character = mark.character then ['\\', character]
  else if isUnprintable character then '\\' :: 'u' :: bracedCodePoint character
  else [character]

/-- A character between single quotation marks. -/
def quotedChar (character : Char) : String :=
  String.ofList ('\x27' :: (escaped .single character ++ ['\x27']))

/-- A text between double quotation marks. -/
def quotedText (text : String) : String :=
  String.ofList ('\x22' :: (text.toList.flatMap (escaped .double) ++ ['\x22']))

end Rewind.Text
