/-
This file proves that text survives being written as bytes and read back. A character takes one
byte, or one that begins it and some more with six bits of its code each. Reading keeps the code as
far as it is known, and every byte to come stands within the limits that the first one sets.
-/

import Mathlib
import Rewind.Text.Utf8

namespace Rewind.Text

/-! ### Characters of several bytes -/

/-- The last bytes of a character, given its code and the number of bytes behind the first of
them. -/
def lastBytes (code : Nat) : Nat → List UInt8
  | 0 => [.ofNat (code % 64 + 0x80)]
  | more + 1 => .ofNat (code / 64 ^ (more + 1) % 64 + 0x80) :: lastBytes code more

/-- The code of an unfinished character is what comes before the six bits of each byte to come, and
the next byte is within the limits. -/
structure Unfinished.Fits (begun : Unfinished) (code : Nat) : Prop where
  known : begun.code = code / 64 ^ (begun.more + 1)
  low : begun.low.toNat ≤ code / 64 ^ begun.more % 64 + 0x80
  high : code / 64 ^ begun.more % 64 + 0x80 ≤ begun.high.toNat

/-- Six bits of the code are added to what is known of it. -/
theorem code_extended (code more : Nat) :
    code / 64 ^ (more + 1) * 64 + code / 64 ^ more % 64 = code / 64 ^ more := by
  rw [Nat.pow_succ, ← Nat.div_div_eq_div_mul]
  exact Nat.div_add_mod' _ 64

theorem takeByte_within {begun : Unfinished} {byte : UInt8}
    (inside : begun.low ≤ byte ∧ byte ≤ begun.high) :
    takeByte (some begun) byte =
      match begun.more with
      | 0 => ([some (Char.ofNat (begun.code * 64 + (byte.toNat - 0x80)))], none)
      | more + 1 => ([], some { code := begun.code * 64 + (byte.toNat - 0x80), more := more }) :=
  if_pos inside

theorem takeByte_of_fits {begun : Unfinished} {code : Nat} (fits : begun.Fits code) :
    takeByte (some begun) (.ofNat (code / 64 ^ begun.more % 64 + 0x80)) =
      match begun.more with
      | 0 => ([some (Char.ofNat (code / 64 ^ begun.more))], none)
      | more + 1 => ([], some { code := code / 64 ^ begun.more, more := more }) := by
  have value : (UInt8.ofNat (code / 64 ^ begun.more % 64 + 0x80)).toNat =
      code / 64 ^ begun.more % 64 + 0x80 :=
    UInt8.toNat_ofNat_of_lt' (show _ < 256 by omega)
  have inside : begun.low ≤ .ofNat (code / 64 ^ begun.more % 64 + 0x80) ∧
      .ofNat (code / 64 ^ begun.more % 64 + 0x80) ≤ begun.high := by
    rw [UInt8.le_iff_toNat_le, UInt8.le_iff_toNat_le, value]
    exact ⟨fits.low, fits.high⟩
  rw [takeByte_within inside, value, fits.known, Nat.add_sub_cancel, code_extended]

/-- The last bytes of a character finish it. -/
theorem readingsFrom_lastBytes {begun : Unfinished} {code : Nat} (fits : begun.Fits code)
    (rest : List UInt8) :
    readingsFrom (some begun) (lastBytes code begun.more ++ rest) =
      some (Char.ofNat code) :: readingsFrom none rest := by
  have taken := takeByte_of_fits fits
  obtain ⟨known, low, high, more⟩ := begun
  induction more generalizing known low high with
  | zero =>
    dsimp only at taken
    rw [Nat.pow_zero, Nat.div_one] at taken
    rw [lastBytes, List.singleton_append, readingsFrom, taken]
    rfl
  | succ more inductionHypothesis =>
    have next : Unfinished.Fits { code := code / 64 ^ (more + 1), more := more } code :=
      ⟨rfl, Nat.le_add_left _ _,
        Nat.add_le_add_right (Nat.le_of_lt_succ (Nat.mod_lt _ (by decide))) _⟩
    dsimp only at taken
    rw [lastBytes, List.cons_append, readingsFrom, taken]
    exact inductionHypothesis _ _ _ next (takeByte_of_fits next)

/-! ### First bytes -/

theorem readingsFrom_ascii {code : Nat} (small : code ≤ 0x7f) (rest : List UInt8) :
    readingsFrom none (.ofNat code :: rest) = some (Char.ofNat code) :: readingsFrom none rest := by
  have value : (UInt8.ofNat code).toNat = code := UInt8.toNat_ofNat_of_lt' (show _ < 256 by omega)
  have ascii : UInt8.ofNat code < 0x80 := by
    rw [UInt8.lt_iff_toNat_lt, value]
    exact Nat.lt_succ_of_le small
  rw [readingsFrom, takeByte, beginCharacter, if_pos ascii, value]
  rfl

theorem beginning?_eq (byte : UInt8) : beginning? byte =
    if 0xc2 ≤ byte.toNat ∧ byte.toNat ≤ 0xdf then some { code := byte.toNat - 0xc0, more := 0 }
    else if byte.toNat = 0xe0 then some { code := 0, low := 0xa0, more := 1 }
    else if byte.toNat = 0xed then some { code := 0xd, high := 0x9f, more := 1 }
    else if 0xe1 ≤ byte.toNat ∧ byte.toNat ≤ 0xef then some { code := byte.toNat - 0xe0, more := 1 }
    else if byte.toNat = 0xf0 then some { code := 0, low := 0x90, more := 2 }
    else if 0xf1 ≤ byte.toNat ∧ byte.toNat ≤ 0xf3 then some { code := byte.toNat - 0xf0, more := 2 }
    else if byte.toNat = 0xf4 then some { code := 4, high := 0x8f, more := 2 }
    else none := by
  unfold beginning?
  simp only [UInt8.le_iff_toNat_le, ← UInt8.toNat_inj]
  rfl

/-- The value of the first byte of a character of several, and the number of bytes behind the
second. -/
inductive Leads (code : Nat) : Nat → Nat → Prop
  | two (many : 0x80 ≤ code) (few : code < 0x800) : Leads code (code / 64 + 0xc0) 0
  | three (many : 0x800 ≤ code) (few : code < 0x10000) : Leads code (code / 64 ^ 2 + 0xe0) 1
  | four (many : 0x10000 ≤ code) (few : code < 0x110000) : Leads code (code / 64 ^ 3 + 0xf0) 2

theorem Leads.toNat_byte {code value more : Nat} (leads : Leads code value more) :
    (UInt8.ofNat value).toNat = value ∧ 0x80 ≤ value := by
  have small : value < 256 ∧ 0x80 ≤ value := by
    cases leads <;> omega
  exact ⟨UInt8.toNat_ofNat_of_lt' small.1, small.2⟩

/-- The limits that the first byte sets for the second keep out codes that fewer bytes can hold,
surrogates, and what lies beyond the last code. -/
theorem Leads.exists_beginning {code value more : Nat} (leads : Leads code value more)
    (valid : code.isValidChar) :
    ∃ begun, beginning? (.ofNat value) = some begun ∧ begun.more = more ∧ begun.Fits code := by
  rw [beginning?_eq, leads.toNat_byte.1]
  unfold Nat.isValidChar at valid
  cases leads with
  | two many few =>
    rw [if_pos (by omega)]
    refine ⟨_, rfl, rfl, ?_, ?_, ?_⟩
    all_goals simp
    all_goals omega
  | three many few =>
    rw [if_neg (by omega)]
    split_ifs
    all_goals first | omega | refine ⟨_, rfl, rfl, ?_, ?_, ?_⟩ <;> simp <;> omega
  | four many few =>
    rw [if_neg (by omega), if_neg (by omega), if_neg (by omega), if_neg (by omega)]
    split_ifs
    all_goals first | omega | refine ⟨_, rfl, rfl, ?_, ?_, ?_⟩ <;> simp <;> omega

/-- A character of several bytes is read back from them. -/
theorem Leads.readingsFrom {code value more : Nat} (leads : Leads code value more)
    (valid : code.isValidChar) (rest : List UInt8) :
    readingsFrom none (.ofNat value :: (lastBytes code more ++ rest)) =
      some (Char.ofNat code) :: readingsFrom none rest := by
  obtain ⟨begun, found, rfl, fits⟩ := leads.exists_beginning valid
  have several : ¬ UInt8.ofNat value < 0x80 := by
    rw [UInt8.lt_iff_toNat_lt, leads.toNat_byte.1]
    exact Nat.not_lt.mpr leads.toNat_byte.2
  rw [Text.readingsFrom, takeByte, beginCharacter, if_neg several, found]
  exact readingsFrom_lastBytes fits rest

/-! ### Text -/

/-- Every character is read back from its bytes. -/
theorem readingsFrom_encodeChar (character : Char) (rest : List UInt8) :
    readingsFrom none (String.utf8EncodeChar character ++ rest) =
      some character :: readingsFrom none rest := by
  have back : Char.ofNat character.val.toNat = character := Char.ofNat_toNat character
  have valid : character.val.toNat.isValidChar := character.valid
  unfold String.utf8EncodeChar
  dsimp only
  generalize character.val.toNat = code at back valid
  rw [← back]
  have bounded : code < 0x110000 := by
    unfold Nat.isValidChar at valid
    omega
  split
  · rename_i one
    exact readingsFrom_ascii one rest
  · rename_i notOne
    split
    · rename_i two
      have value : code / 64 % 32 + 192 = code / 64 + 0xc0 := by omega
      rw [value]
      exact (Leads.two (by omega) (by omega)).readingsFrom valid rest
    · rename_i notTwo
      split
      · rename_i three
        have value : code / 4096 % 16 + 224 = code / 64 ^ 2 + 0xe0 := by omega
        rw [value]
        exact (Leads.three (by omega) (by omega)).readingsFrom valid rest
      · rename_i four
        have value : code / 262144 % 8 + 240 = code / 64 ^ 3 + 0xf0 := by omega
        rw [value]
        exact (Leads.four (by omega) bounded).readingsFrom valid rest

/-- Text is read back from its bytes. -/
theorem decode?_encode (text : List Char) : decode? (encode text) = some text := by
  have read : readings (encode text) = text.map some := by
    unfold readings encode
    induction text with
    | nil => rfl
    | cons character text inductionHypothesis =>
      rw [List.flatMap_cons, readingsFrom_encodeChar, inductionHypothesis, List.map_cons]
  rw [decode?, read]
  clear read
  induction text with
  | nil => rfl
  | cons character text inductionHypothesis =>
    rw [List.map_cons, List.mapM_cons, inductionHypothesis]
    rfl

end Rewind.Text
