/-
This file says which texts the rules without groups read: names, numbers, escapes, classes,
quantifiers and what stands behind an opening parenthesis. Each of them reads the yields of its
well-formed derivations; where one yield may go on to be another, it reads the longer one.
-/

import Mathlib
import Rewind.Proofs.Pattern.Language
import Rewind.Proofs.Pattern.Reading

namespace Rewind.Grammar

open Rewind.Parser Rewind.Derivation

variable {text rest : List Char}

/-! ### Names, numbers and escapes -/

instance steady_name : Steady name := by unfold name; infer_instance

instance steady_number : Steady number := by unfold number; infer_instance

instance steady_escape : Steady escape := by unfold escape; infer_instance

theorem run_name {read : List Char} :
    name.run text = some (read, rest) ↔ IsName read ∧ text = read ++ rest ∧
      Stops (fun character => character.isAlphanum || character == '_') rest := by
  simp only [name, run_rule, run_bind_eq_some, run_charWhere, run_many (consumes_charWhere _),
    repeated_charWhere, run_pure, Option.some.injEq, Prod.mk.injEq]
  constructor
  · rintro ⟨first, middle, ⟨rfl, isFirst⟩, others, _, ⟨rfl, all, stops⟩, rfl, rfl⟩
    exact ⟨⟨isFirst, all⟩, rfl, stops⟩
  · rintro ⟨isName, rfl, stops⟩
    cases read with
    | nil => exact absurd isName not_false
    | cons first others =>
      exact ⟨first, _, ⟨rfl, isName.1⟩, others, _, ⟨rfl, isName.2, stops⟩, rfl, rfl⟩

theorem run_number {digits : List Char} :
    number.run text = some (digits, rest) ↔
      IsNumber digits ∧ text = digits ++ rest ∧ Stops Char.isDigit rest := by
  rw [number, run_rule, run_manyOnce (consumes_charWhere _), repeated_charWhere, IsNumber]
  grind

theorem run_escape {character : Char} :
    escape.run text = some (character, rest) ↔ text = '\\' :: character :: rest := by
  simp [escape]

/-! ### Classes -/

instance steady_classLiteral : Steady classLiteral := by unfold classLiteral; infer_instance

instance steady_classChar : Steady classChar := by unfold classChar; infer_instance

instance steady_classRange : Steady classRange := by unfold classRange; infer_instance

instance steady_classPart : Steady classPart := by unfold classPart; infer_instance

instance steady_charClass : Steady charClass := by unfold charClass; infer_instance

theorem run_classChar {character : ClassChar} :
    classChar.run text = some (character, rest) ↔
      character.WellFormed ∧ text = character.yield ++ rest := by
  simp only [classChar, classLiteral, run_orElse_eq_some, run_map, run_rule,
    run_escape, run_charWhere, Option.eq_none_iff_forall_ne_some, Prod.forall, ne_eq]
  cases character with
  | escape character => simp [ClassChar.WellFormed, ClassChar.yield]
  | literal character =>
    simp only [ClassChar.WellFormed, ClassChar.yield, reduceCtorEq, and_false,
      exists_false, false_or]
    grind

theorem run_classRange {part : ClassPart} :
    classRange.run text = some (part, rest) ↔
      ∃ low high, part = .range low high ∧ part.WellFormed ∧ text = part.yield ++ rest := by
  simp only [classRange, run_rule, run_bind_eq_some, run_classChar, run_exactly, run_pure,
    Option.some.injEq, Prod.mk.injEq]
  constructor
  · rintro ⟨low, _, ⟨isLow, rfl⟩, -, _, rfl, high, _, ⟨isHigh, rfl⟩, rfl, rfl⟩
    exact ⟨low, high, rfl, ⟨isLow, isHigh⟩, by simp [ClassPart.yield]⟩
  · rintro ⟨low, high, rfl, ⟨isLow, isHigh⟩, rfl⟩
    exact ⟨low, _, ⟨isLow, List.append_assoc _ _ _⟩, (), _, rfl, high, _, ⟨isHigh, rfl⟩, rfl, rfl⟩

/-- A hyphen with a character behind it. -/
def GoesOn (text : List Char) : Prop :=
  ∃ (high : ClassChar) (after : List Char), high.WellFormed ∧ text = '-' :: (high.yield ++ after)

/-- A single character is read only where no hyphen makes a range of it. -/
theorem run_classPart {part : ClassPart} :
    classPart.run text = some (part, rest) ↔
      part.WellFormed ∧ text = part.yield ++ rest ∧ ∀ character, part = .single character →
        ¬ GoesOn rest := by
  simp only [classPart, run_orElse_eq_some, run_classRange, run_map, run_classChar]
  constructor
  · rintro (⟨low, high, rfl, wellFormed, rfl⟩ | ⟨alone, character, ⟨wellFormed, rfl⟩, rfl⟩)
    · exact ⟨wellFormed, rfl, by rintro _ ⟨⟩⟩
    · refine ⟨wellFormed, rfl, fun other same => ?_⟩
      rintro ⟨high, after, isHigh, rfl⟩
      have found := run_classRange.mpr
        ⟨character, high, rfl, ⟨wellFormed, isHigh⟩, (by simp [ClassPart.yield] :
          character.yield ++ '-' :: (high.yield ++ after) = _ ++ after)⟩
      rw [alone] at found
      cases found
  · rintro ⟨wellFormed, rfl, alone⟩
    cases part with
    | range low high => exact .inl ⟨low, high, rfl, wellFormed, rfl⟩
    | single character =>
      refine .inr ⟨?_, character, ⟨wellFormed, rfl⟩, rfl⟩
      refine Option.eq_none_iff_forall_ne_some.mpr ?_
      rintro ⟨part, after⟩ found
      obtain ⟨low, high, rfl, ⟨isLow, isHigh⟩, same⟩ := run_classRange.mp found
      -- A class character is read in one way only, so the range starts with the single one.
      have first : classChar.run (character.yield ++ rest) =
          some (low, '-' :: (high.yield ++ after)) := by
        refine run_classChar.mpr ⟨isLow, same.trans ?_⟩
        simp [ClassPart.yield]
      rw [run_classChar.mpr ⟨wellFormed, rfl⟩] at first
      cases first
      exact alone character rfl ⟨high, after, isHigh, rfl⟩

theorem consumes_escape : Consumes escape := (consumes_exactly _).bind.rule _

theorem consumes_classChar : Consumes classChar :=
  (consumes_escape.map _).orElse (((consumes_charWhere _).rule _).map _)

theorem consumes_classPart : Consumes classPart :=
  (consumes_classChar.bind.rule _).orElse (consumes_classChar.map _)

theorem goesOn_iff {characters : List ClassChar} (rest : List Char)
    (wellFormed : ∀ character ∈ characters, character.WellFormed) :
    GoesOn (characters.flatMap ClassChar.yield ++ ']' :: rest) ↔
      ∃ high others, characters = .literal '-' :: high :: others := by
  constructor
  · rintro ⟨high, after, isHigh, same⟩
    match characters with
    | [] => cases same
    | .escape character :: others => cases same
    | .literal character :: others =>
      obtain ⟨rfl, behind⟩ := List.cons.inj same
      cases others with
      | cons other others => exact ⟨other, others, rfl⟩
      | nil =>
        -- The character behind the hyphen would be the bracket that closes the class.
        cases high with
        | escape character => cases behind
        | literal character =>
          obtain ⟨rfl, -⟩ := List.cons.inj behind
          exact absurd rfl isHigh.1
  · rintro ⟨high, others, rfl⟩
    refine ⟨high, others.flatMap ClassChar.yield ++ ']' :: rest, ?_, ?_⟩
    · exact wellFormed high (List.mem_cons_of_mem _ List.mem_cons_self)
    · simp [ClassChar.yield]

theorem classPart_eq_none (rest : List Char) : classPart.run (']' :: rest) = none := by
  refine Option.eq_none_iff_forall_ne_some.mpr ?_
  rintro ⟨part, after⟩ found
  obtain ⟨wellFormed, same, -⟩ := run_classPart.mp found
  rcases part with ⟨_ | low, high⟩ | _ | character
  · cases same
  · cases (List.cons.inj same).1
    exact wellFormed.1.1 rfl
  · cases same
  · cases (List.cons.inj same).1
    exact wellFormed.1 rfl

/-- The items of a class are read from left to right up to its end. -/
theorem repeated_classPart {parts : List ClassPart} :
    Repeated classPart.run text parts (']' :: rest) ↔
      text = parts.flatMap ClassPart.yield ++ ']' :: rest ∧ (∀ part ∈ parts, part.WellFormed) ∧
        ClassPart.grouped (parts.flatMap ClassPart.characters) = parts := by
  constructor
  · generalize closing : ']' :: rest = after
    intro repeated
    induction repeated with
    | stop fails => exact ⟨rfl, by simp, rfl⟩
    | @more text middle after part parts first others inductionHypothesis =>
      obtain ⟨wellFormed, rfl, alone⟩ := run_classPart.mp first
      obtain ⟨rfl, all, grouped⟩ := inductionHypothesis closing
      refine ⟨(List.append_assoc _ _ _).symm, List.forall_mem_cons.mpr ⟨wellFormed, all⟩, ?_⟩
      cases part with
      | range low high => exact (ClassPart.grouped_range low high _).trans (congrArg _ grouped)
      | single character =>
        refine (ClassPart.grouped_single character fun high later same => ?_).trans
          (congrArg _ grouped)
        refine alone character rfl ?_
        rw [ClassPart.flatMap_yield, ← closing]
        exact (goesOn_iff rest ((ClassPart.all_wellFormed_iff parts).mp all)).mpr
          ⟨high, later, same⟩
  · rintro ⟨rfl, all, grouped⟩
    induction parts with
    | nil => exact .stop (classPart_eq_none rest)
    | cons part parts inductionHypothesis =>
      obtain ⟨wellFormed, others⟩ := List.forall_mem_cons.mp all
      rw [List.flatMap_cons, List.append_assoc]
      cases part with
      | range low high =>
        have same := (ClassPart.grouped_range low high _).symm.trans grouped
        exact .more (run_classPart.mpr ⟨wellFormed, rfl, by rintro _ ⟨⟩⟩)
          (inductionHypothesis others (List.cons.inj same).2)
      | single character =>
        have alone : ∀ high later, parts.flatMap ClassPart.characters ≠
            .literal '-' :: high :: later := by
          intro high later goesOn
          have same : ClassPart.grouped (character :: parts.flatMap ClassPart.characters) =
            .single character :: parts := grouped
          rw [goesOn, ClassPart.grouped_range] at same
          cases same
        have same := (ClassPart.grouped_single character alone).symm.trans grouped
        refine .more (run_classPart.mpr ⟨wellFormed, rfl, fun _ _ goesOn => ?_⟩)
          (inductionHypothesis others (List.cons.inj same).2)
        rw [ClassPart.flatMap_yield] at goesOn
        obtain ⟨high, later, found⟩ :=
          (goesOn_iff rest ((ClassPart.all_wellFormed_iff parts).mp others)).mp goesOn
        exact alone high later found

/-- A class is read up to its end, and what stands in it from left to right. -/
theorem run_charClass {atom : Atom} :
    charClass.run text = some (atom, rest) ↔
      ∃ negated parts, atom = .charClass negated parts ∧ atom.WellFormed ∧ atom.regrouped = atom ∧
        text = atom.yield ++ rest := by
  simp only [charClass, run_rule, run_bind_eq_some, run_exactly, run_optionally, exactly_eq_none,
    run_manyOnce consumes_classPart, run_pure, Option.some.injEq, Prod.mk.injEq]
  have caretless (inside : List Char) (closed : List Char) :
      (inside ++ ']' :: closed).head? ≠ some '^' ↔ inside.head? ≠ some '^' := by
    cases inside <;> simp
  constructor
  · rintro ⟨-, middle, rfl, negation, inside, negated, parts, _, ⟨nonempty, repeated⟩,
      -, _, rfl, rfl, rfl⟩
    obtain ⟨rfl, all, grouped⟩ := repeated_classPart.mp repeated
    obtain ⟨_, rfl, rfl⟩ | ⟨plain, rfl, rfl⟩ := negated
    · exact ⟨true, parts, rfl, ⟨nonempty, all, by rintro ⟨⟩⟩,
        congrArg _ grouped, by simp [Atom.yield]⟩
    · exact ⟨false, parts, rfl, ⟨nonempty, all, fun _ => (caretless _ _).mp plain⟩,
        congrArg _ grouped, by simp [Atom.yield]⟩
  · rintro ⟨negated, parts, rfl, ⟨nonempty, all, caret⟩, regrouped, rfl⟩
    have grouped := (Atom.charClass.inj regrouped).2
    have repeated : Repeated classPart.run (parts.flatMap ClassPart.yield ++ ']' :: rest) parts
        (']' :: rest) := repeated_classPart.mpr ⟨rfl, all, grouped⟩
    cases negated with
    | true =>
      exact ⟨(), _, rfl, some (), _, .inl ⟨(), by simp, rfl⟩, parts, _, ⟨nonempty, repeated⟩, (), _,
        rfl, rfl, rfl⟩
    | false =>
      refine ⟨(), _, rfl, none, _, .inr ⟨?_, rfl, by simp⟩, parts, _, ⟨nonempty, repeated⟩, (), _,
        rfl, rfl, rfl⟩
      simpa using (caretless _ rest).mpr (caret rfl)

/-! ### Quantifiers -/

instance steady_upper : Steady upper := by unfold upper; infer_instance

instance steady_range : Steady range := by unfold range; infer_instance

instance steady_bounds : Steady bounds := by unfold bounds; infer_instance

instance steady_quantifier : Steady quantifier := by unfold quantifier; infer_instance

theorem number_eq_none (stops : Stops Char.isDigit text) : number.run text = none := by
  refine Option.eq_none_iff_forall_ne_some.mpr ?_
  rintro ⟨digits, after⟩ found
  obtain ⟨⟨nonempty, all⟩, rfl, -⟩ := run_number.mp found
  cases digits with
  | nil => exact nonempty rfl
  | cons digit digits =>
    have isDigit := all digit List.mem_cons_self
    rw [stops digit rfl] at isDigit
    cases isDigit

/-- The upper bound in front of the brace that closes the range. -/
theorem run_upper {high : Upper} :
    upper.run text = some (high, '\x7d' :: rest) ↔
      high.WellFormed ∧ text = high.yield ++ '\x7d' :: rest := by
  have stops : Stops Char.isDigit ('\x7d' :: rest) := by
    intro character closes
    cases closes
    rfl
  simp only [upper, run_bind_eq_some, run_optionally, run_rule, run_exactly, run_number, run_pure,
    Option.some.injEq, Prod.mk.injEq]
  constructor
  · rintro ⟨bound, _, ⟨found, ⟨-, middle, rfl, upTo⟩, rfl⟩ | ⟨-, rfl, rfl⟩, rfl, rfl⟩
    · obtain ⟨digits, ⟨isNumber, rfl, -⟩, rfl⟩ | ⟨-, rfl, rfl⟩ := upTo
      · exact ⟨isNumber, rfl⟩
      · exact ⟨trivial, rfl⟩
    · exact ⟨trivial, rfl⟩
  · rintro ⟨wellFormed, rfl⟩
    cases high with
    | same =>
      refine ⟨none, _, .inr ⟨?_, rfl, rfl⟩, rfl, rfl⟩
      refine Option.eq_none_iff_forall_ne_some.mpr ?_
      rintro ⟨found, after⟩ reads
      obtain ⟨_, _, comma, _⟩ := run_bind_eq_some.mp reads
      rw [run_rule, run_exactly] at comma
      cases comma
    | unbounded =>
      exact ⟨some none, _,
        .inl ⟨none, ⟨(), _, rfl, .inr ⟨number_eq_none stops, rfl, rfl⟩⟩, rfl⟩, rfl,
        rfl⟩
    | upTo digits =>
      exact ⟨some (some digits), _, .inl ⟨some digits, ⟨(), _, rfl,
        .inl ⟨digits, ⟨wellFormed, rfl, stops⟩, rfl⟩⟩, rfl⟩, rfl, rfl⟩

theorem run_range {written : Bounds} :
    range.run text = some (written, rest) ↔
      ∃ low high, written = .range low high ∧ written.WellFormed ∧
        text = written.yield ++ rest := by
  simp only [range, run_rule, run_bind_eq_some, run_exactly, run_number, run_pure,
    Option.some.injEq, Prod.mk.injEq]
  constructor
  · rintro ⟨-, _, rfl, low, _, ⟨isNumber, rfl, -⟩, high, _, reads, -, _, rfl, rfl, rfl⟩
    obtain ⟨wellFormed, rfl⟩ := run_upper.mp reads
    exact ⟨low, high, rfl, ⟨isNumber, wellFormed⟩, by simp [Bounds.yield]⟩
  · rintro ⟨low, high, rfl, ⟨isNumber, wellFormed⟩, rfl⟩
    refine ⟨(), _, rfl, low, high.yield ++ '\x7d' :: rest, ⟨isNumber, by simp, ?_⟩, high, _,
      run_upper.mpr ⟨wellFormed, rfl⟩, (), _, rfl, rfl, rfl⟩
    intro character starts
    cases high <;> cases starts <;> rfl

theorem run_bounds {written : Bounds} :
    bounds.run text = some (written, rest) ↔ written.WellFormed ∧ text = written.yield ++ rest := by
  simp only [bounds, run_orElse_eq_some, run_rule, run_bind_eq_some, run_exactly,
    run_range, run_pure,
    Option.some.injEq, Prod.mk.injEq, Option.eq_none_iff_forall_ne_some, Prod.forall, ne_eq]
  cases written <;> simp only [Bounds.WellFormed, Bounds.yield] <;> grind

/-- A question mark behind the bounds belongs to the quantifier. -/
theorem run_quantifier {written : Quantifier} :
    quantifier.run text = some (written, rest) ↔ written.bounds.WellFormed ∧
      text = written.yield ++ rest ∧ (written.lazily = false → rest.head? ≠ some '?') := by
  simp only [quantifier, run_rule, run_bind_eq_some, run_exactly, run_bounds, run_optionally,
    exactly_eq_none, run_pure, Option.some.injEq, Prod.mk.injEq]
  obtain ⟨bounds, lazily⟩ := written
  constructor
  · rintro ⟨_, _, ⟨wellFormed, rfl⟩, mark, _, ⟨_, rfl, rfl⟩ | ⟨unmarked, rfl, rfl⟩, same, rfl⟩
    · cases same
      exact ⟨wellFormed, by simp [Quantifier.yield], by rintro ⟨⟩⟩
    · cases same
      exact ⟨wellFormed, by simp [Quantifier.yield], fun _ => unmarked⟩
  · rintro ⟨wellFormed, rfl, unmarked⟩
    cases lazily with
    | true =>
      exact ⟨bounds, '?' :: rest, ⟨wellFormed, by simp [Quantifier.yield]⟩, some (), rest,
        .inl ⟨(), rfl, rfl⟩, rfl, rfl⟩
    | false =>
      exact ⟨bounds, rest, ⟨wellFormed, by simp [Quantifier.yield]⟩, none, rest,
        .inr ⟨unmarked rfl, rfl, rfl⟩, rfl, rfl⟩

/-! ### Openings -/

instance steady_named : Steady named := by unfold named; infer_instance

instance steady_groupKind : Steady groupKind := by unfold groupKind; infer_instance

theorem run_named {opening : Opening} :
    named.run text = some (opening, rest) ↔
      ∃ written, opening = .named written ∧ IsName written ∧
        text = '?' :: '<' :: (written ++ '>' :: rest) := by
  simp only [named, run_rule, run_bind_eq_some, run_exactly, run_name, run_pure, Option.some.injEq,
    Prod.mk.injEq]
  constructor
  · rintro ⟨-, _, rfl, -, _, rfl, written, _, ⟨isName, rfl, -⟩, -, _, rfl, rfl, rfl⟩
    exact ⟨written, rfl, isName, rfl⟩
  · rintro ⟨written, rfl, isName, rfl⟩
    refine ⟨(), _, rfl, (), _, rfl, written, '>' :: rest, ⟨isName, rfl, ?_⟩, (), _, rfl, rfl, rfl⟩
    intro character closes
    cases closes
    rfl

/-- What stands behind the parenthesis of a group that is not plain. -/
theorem run_groupKind {opening : Opening} :
    groupKind.run text = some (opening, rest) ↔
      opening ≠ .plain ∧ opening.WellFormed ∧ '(' :: text = opening.yield ++ rest := by
  simp only [groupKind, run_orElse_eq_some, run_rule, run_bind_eq_some, run_exactly,
    run_named, run_pure,
    Option.some.injEq, Prod.mk.injEq, Option.eq_none_iff_forall_ne_some, Prod.forall, ne_eq]
  cases opening <;> simp only [Opening.WellFormed, Opening.yield] <;> grind

/-- A plain group does not start with a question mark. -/
theorem groupKind_eq_none (plain : text.head? ≠ some '?') : groupKind.run text = none := by
  refine Option.eq_none_iff_forall_ne_some.mpr ?_
  rintro ⟨opening, after⟩ found
  obtain ⟨different, -, same⟩ := run_groupKind.mp found
  cases opening with
  | plain => exact different rfl
  | atomic | ahead | notAhead | named =>
    cases same
    exact plain rfl

end Rewind.Grammar
