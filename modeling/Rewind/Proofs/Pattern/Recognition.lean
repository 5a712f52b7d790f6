/-
This file proves that the grammar is read as it is written. A choice that is made once and for all,
and a repetition that never gives anything back, might miss a derivation; here they do not, for the
first character of every part tells which one it is: no atom starts with a character that could also
go on with what stands before it. Reading a text finds a derivation if there is one, and then the
one whose classes are read from left to right.

The induction is on the layers of the parser. A layer reads the texts that are shorter than the
number of layers, up to a parenthesis that closes or the end; the parenthesis that opens a group
pays for the layer below.
-/

import Mathlib
import Rewind.Proofs.Pattern.Tokens

namespace Rewind.Derivation

/-! ### Derivations that are read -/

/-- A well-formed atom whose classes are read from left to right. -/
def Atom.Canonical (atom : Atom) : Prop := atom.WellFormed ∧ atom.regrouped = atom

/-- A well-formed piece whose classes are read from left to right. -/
def Piece.Canonical (piece : Piece) : Prop := piece.WellFormed ∧ piece.regrouped = piece

/-- A well-formed sequence whose classes are read from left to right. -/
def Sequence.Canonical (sequence : Sequence) : Prop :=
  sequence.WellFormed ∧ sequence.regrouped = sequence

/-- A well-formed alternation whose classes are read from left to right. -/
def Alternation.Canonical (alternation : Alternation) : Prop :=
  alternation.WellFormed ∧ alternation.regrouped = alternation

theorem Atom.canonical_group {opening : Opening} {body : Alternation} :
    (Atom.group opening body).Canonical ↔ opening.WellFormed ∧ body.Canonical := by
  simp only [Atom.Canonical, Alternation.Canonical, Atom.WellFormed,
    Atom.regrouped, Atom.group.injEq, true_and, and_assoc]

theorem Piece.canonical_mk {atom : Atom} {quantifier : Option Quantifier} :
    (Piece.mk atom quantifier).Canonical ↔
      atom.Canonical ∧ ∀ written ∈ quantifier, written.bounds.WellFormed := by
  simp only [Piece.Canonical, Atom.Canonical, Piece.WellFormed, Piece.regrouped,
    Piece.mk.injEq, and_true, and_right_comm]

theorem Sequence.canonical_ofList {pieces : List Piece} :
    (Sequence.ofList pieces).Canonical ↔ ∀ piece ∈ pieces, piece.Canonical := by
  induction pieces with
  | nil => simp [Sequence.ofList, Sequence.Canonical, Sequence.WellFormed, Sequence.regrouped]
  | cons piece pieces inductionHypothesis =>
    rw [List.forall_mem_cons, ← inductionHypothesis]
    simp only [Sequence.ofList, Sequence.Canonical, Piece.Canonical, Sequence.WellFormed,
      Sequence.regrouped, Sequence.cons.injEq]
    tauto

theorem Alternation.canonical_ofList {first : Sequence} {others : List Sequence} :
    (Alternation.ofList first others).Canonical ↔
      first.Canonical ∧ ∀ branch ∈ others, branch.Canonical := by
  induction others generalizing first with
  | nil =>
    simp [Alternation.ofList, Alternation.Canonical, Sequence.Canonical, Alternation.WellFormed,
      Alternation.regrouped]
  | cons second others inductionHypothesis =>
    rw [List.forall_mem_cons, ← inductionHypothesis]
    simp only [Alternation.ofList, Alternation.Canonical, Sequence.Canonical,
      Alternation.WellFormed, Alternation.regrouped, Alternation.either.injEq]
    tauto

/-! ### Derivations as lists -/

theorem Sequence.exists_ofList (sequence : Sequence) : ∃ pieces, sequence = .ofList pieces := by
  cases sequence with
  | empty => exact ⟨[], rfl⟩
  | cons piece rest =>
    obtain ⟨pieces, same⟩ := rest.exists_ofList
    exact ⟨piece :: pieces, congrArg _ same⟩

theorem Alternation.exists_ofList (alternation : Alternation) :
    ∃ first others, alternation = .ofList first others := by
  cases alternation with
  | only branch => exact ⟨branch, [], rfl⟩
  | either branch rest =>
    obtain ⟨second, others, same⟩ := rest.exists_ofList
    exact ⟨branch, second :: others, congrArg _ same⟩

theorem Sequence.yield_ofList (pieces : List Piece) :
    (Sequence.ofList pieces).yield = pieces.flatMap Piece.yield := by
  induction pieces with
  | nil => rfl
  | cons piece pieces inductionHypothesis => exact congrArg _ inductionHypothesis

theorem Alternation.yield_ofList (first : Sequence) (others : List Sequence) :
    (Alternation.ofList first others).yield =
      first.yield ++ others.flatMap fun branch => '|' :: branch.yield := by
  induction others generalizing first with
  | nil => exact (List.append_nil _).symm
  | cons second others inductionHypothesis =>
    rw [Alternation.ofList, Alternation.yield, inductionHypothesis,
      List.flatMap_cons, List.cons_append]

/-! ### First characters -/

/-- Whether a character can be the first one of a quantifier. -/
def opensQuantifier (character : Char) : Bool := ['*', '+', '?', '\x7b'].contains character

/-- Whether a character can be the first one of an atom. -/
def opensAtom (character : Char) : Bool :=
  !(opensQuantifier character || character == '|' || character == ')')

theorem Atom.opens : ∀ {atom : Atom}, atom.WellFormed →
    ∃ character others, atom.yield = character :: others ∧ opensAtom character = true
  | .group opening _, _ => by cases opening <;> exact ⟨'(', _, rfl, rfl⟩
  | .charClass _ _, _ => ⟨'[', _, rfl, rfl⟩
  | .any, _ => ⟨'.', _, rfl, rfl⟩
  | .start, _ => ⟨'^', _, rfl, rfl⟩
  | .stop, _ => ⟨'$', _, rfl, rfl⟩
  | .escape _, _ => ⟨'\\', _, rfl, rfl⟩
  | .literal character, ordinary => ⟨character, [], rfl, by
      simp only [Atom.WellFormed, Grammar.isSpecial, List.contains_eq_mem, List.mem_cons,
        List.not_mem_nil, or_false, decide_eq_false_iff_not, not_or] at ordinary
      simp [opensAtom, opensQuantifier, ordinary]⟩

theorem Piece.opens {piece : Piece} (wellFormed : piece.WellFormed) :
    ∃ character others, piece.yield = character :: others ∧ opensAtom character = true := by
  obtain ⟨atom, quantifier⟩ := piece
  obtain ⟨character, others, same, opens⟩ := Atom.opens wellFormed.1
  exact ⟨character, others ++ _, congrArg (· ++ _) same, opens⟩

/-- A sequence is empty or starts with an atom. -/
theorem Sequence.opens : ∀ {sequence : Sequence}, sequence.WellFormed → sequence.yield = [] ∨
    ∃ character others, sequence.yield = character :: others ∧ opensAtom character = true
  | .empty, _ => .inl rfl
  | .cons piece rest, wellFormed => by
    obtain ⟨character, others, same, opens⟩ := Piece.opens wellFormed.1
    exact .inr ⟨character, others ++ rest.yield, congrArg (· ++ _) same, opens⟩

theorem opensQuantifier_of_opensAtom {character : Char} (opens : opensAtom character = true) :
    opensQuantifier character = false := by
  unfold opensAtom at opens
  cases isOpening : opensQuantifier character with
  | false => rfl
  | true => simp [isOpening] at opens

/-- No sequence starts like a quantifier. -/
theorem Sequence.WellFormed.stops {sequence : Sequence} (wellFormed : sequence.WellFormed)
    {rest : List Char} (stops : Parser.Stops opensQuantifier rest) :
    Parser.Stops opensQuantifier (sequence.yield ++ rest) := by
  obtain empty | ⟨first, others, same, opens⟩ := Sequence.opens wellFormed
  · rwa [empty]
  · rw [same]
    rintro character ⟨⟩
    exact opensQuantifier_of_opensAtom opens

/-- No alternation starts like a quantifier. -/
theorem Alternation.WellFormed.stops {alternation : Alternation}
    (wellFormed : alternation.WellFormed)
    {rest : List Char} (stops : Parser.Stops opensQuantifier rest) :
    Parser.Stops opensQuantifier (alternation.yield ++ rest) := by
  cases alternation with
  | only branch => exact Sequence.WellFormed.stops wellFormed stops
  | either branch others =>
    rw [Alternation.yield, List.append_assoc]
    refine Sequence.WellFormed.stops wellFormed.1 ?_
    rintro character ⟨⟩
    rfl

end Rewind.Derivation

/-! ### Parsers of alternations -/

namespace Rewind.Grammar

open Rewind.Parser Rewind.Derivation

variable {body : Parser Alternation} {text rest : List Char}

/-- Whatever is read is a derivation whose classes are read from left to right. -/
def Sound (body : Parser Alternation) : Prop :=
  ∀ {text : List Char} {derivation : Alternation} {rest : List Char},
    body.run text = some (derivation, rest) → derivation.Canonical ∧ text = derivation.yield ++ rest

/-- Derivations are found in texts that are shorter than a limit, up to a parenthesis that closes or
the end. -/
def Finds (limit : Nat) (body : Parser Alternation) : Prop :=
  ∀ {derivation : Alternation} {rest : List Char}, derivation.Canonical → Stops (· != ')') rest →
    (derivation.yield ++ rest).length < limit →
      body.run (derivation.yield ++ rest) = some (derivation, rest)

instance steady_group [Steady body] : Steady (group body) := by unfold group; infer_instance

instance steady_atom [Steady body] : Steady (atom body) := by unfold atom; infer_instance

instance steady_piece [Steady body] : Steady (piece body) := by unfold piece; infer_instance

instance steady_sequence [Steady body] :
    Steady (sequence body) := by unfold sequence; infer_instance

/-! ### Groups and atoms -/

theorem sound_group [Steady body] (sound : Sound body) {found : Atom}
    (reads : (group body).run text = some (found, rest)) :
    ∃ opening derivation, found = .group opening derivation ∧ found.Canonical ∧
      text = found.yield ++ rest := by
  simp only [group, run_rule, run_bind_eq_some, run_exactly, run_optionally, run_pure,
    Option.some.injEq, Prod.mk.injEq] at reads
  obtain ⟨-, inside, rfl, kind, start, opens, derivation, _, within, -, _, rfl, rfl, rfl⟩ := reads
  obtain ⟨canonical, rfl⟩ := sound within
  obtain ⟨opening, reads, rfl⟩ | ⟨-, rfl, rfl⟩ := opens
  · obtain ⟨-, wellFormed, same⟩ := run_groupKind.mp reads
    refine ⟨opening, derivation, rfl, Atom.canonical_group.mpr ⟨wellFormed, canonical⟩, ?_⟩
    rw [same]
    simp [Atom.yield]
  · exact ⟨.plain, derivation, rfl, Atom.canonical_group.mpr ⟨trivial, canonical⟩,
      by simp [Atom.yield, Opening.yield]⟩

theorem sound_atom [Steady body] (sound : Sound body) {found : Atom}
    (reads : (atom body).run text = some (found, rest)) :
    found.Canonical ∧ text = found.yield ++ rest := by
  simp only [atom, run_orElse_eq_some, run_rule, run_bind_eq_some, run_exactly, run_map, run_escape,
    run_charWhere, run_pure, Option.some.injEq, Prod.mk.injEq] at reads
  obtain grouped |
    ⟨-, inClass | ⟨-, any | ⟨-, start | ⟨-, stop | ⟨-, escaped | ⟨-, literal⟩⟩⟩⟩⟩⟩ := reads
  · obtain ⟨-, -, -, canonical, same⟩ := sound_group sound grouped
    exact ⟨canonical, same⟩
  · obtain ⟨-, -, -, wellFormed, regrouped, same⟩ := run_charClass.mp inClass
    exact ⟨⟨wellFormed, regrouped⟩, same⟩
  · obtain ⟨-, _, rfl, rfl, rfl⟩ := any
    exact ⟨⟨trivial, rfl⟩, rfl⟩
  · obtain ⟨-, _, rfl, rfl, rfl⟩ := start
    exact ⟨⟨trivial, rfl⟩, rfl⟩
  · obtain ⟨-, _, rfl, rfl, rfl⟩ := stop
    exact ⟨⟨trivial, rfl⟩, rfl⟩
  · obtain ⟨character, rfl, rfl⟩ := escaped
    exact ⟨⟨trivial, rfl⟩, rfl⟩
  · obtain ⟨character, ⟨rfl, ordinary⟩, rfl⟩ := literal
    exact ⟨⟨Bool.eq_false_of_not_eq_true' ordinary, rfl⟩, rfl⟩

/-- A group is opened by a parenthesis. -/
theorem group_eq_none [Steady body] (other : text.head? ≠ some '(') :
    (group body).run text = none := by
  refine Option.eq_none_iff_forall_ne_some.mpr ?_
  rintro ⟨found, after⟩ reads
  refine other ?_
  simp only [group, run_rule, run_bind_eq_some, run_exactly] at reads
  obtain ⟨-, inside, rfl, -⟩ := reads
  rfl

/-- A class is opened by a bracket. -/
theorem charClass_eq_none (other : text.head? ≠ some '[') : charClass.run text = none := by
  refine Option.eq_none_iff_forall_ne_some.mpr ?_
  rintro ⟨found, after⟩ reads
  refine other ?_
  obtain ⟨negated, parts, rfl, -, -, rfl⟩ := run_charClass.mp reads
  rfl

theorem finds_group [Steady body] {limit : Nat} (finds : Finds limit body) {opening : Opening}
    {derivation : Alternation} (canonical : (Atom.group opening derivation).Canonical)
    (short : ((Atom.group opening derivation).yield ++ rest).length < limit + 1) :
    (group body).run ((Atom.group opening derivation).yield ++ rest) =
      some (.group opening derivation, rest) := by
  obtain ⟨opens, inner⟩ := Atom.canonical_group.mp canonical
  obtain ⟨mark, opened⟩ : ∃ mark, opening.yield = '(' :: mark := by cases opening <;> exact ⟨_, rfl⟩
  have closes : Stops (· != ')') (')' :: rest) := by
    rintro character ⟨⟩
    rfl
  have shape : (Atom.group opening derivation).yield ++ rest =
      '(' :: (mark ++ (derivation.yield ++ ')' :: rest)) := by
    simp [Atom.yield, opened]
  rw [shape, List.length_cons, List.length_append] at short
  have within : body.run (derivation.yield ++ ')' :: rest) = some (derivation, ')' :: rest) :=
    finds inner closes (by omega)
  rw [shape]
  simp only [group, run_rule, run_bind_eq_some, run_exactly, run_optionally, run_pure,
    Option.some.injEq, Prod.mk.injEq]
  by_cases plain : opening = .plain
  · subst plain
    cases opened
    refine ⟨(), _, rfl, none, _,
      .inr ⟨groupKind_eq_none fun question => ?_, rfl, rfl⟩, derivation, _,
      within, (), rest, rfl, rfl, rfl⟩
    have behind : Stops opensQuantifier (')' :: rest) := by
      rintro character ⟨⟩
      rfl
    cases inner.1.stops behind _ question
  · refine ⟨(), _, rfl, some opening, _, .inl ⟨opening, run_groupKind.mpr ⟨plain, opens, ?_⟩, rfl⟩,
      derivation, _, within, (), rest, rfl, rfl, rfl⟩
    rw [opened, List.cons_append]

theorem mark_eq_none {α : Type} (label : Rule) {character : Char} (value : α)
    (other : text.head? ≠ some character) :
    (do rule label (exactly character); pure value : Parser α).run text = none := by
  refine Option.eq_none_iff_forall_ne_some.mpr ?_
  rintro ⟨found, after⟩ reads
  refine other ?_
  obtain ⟨_, inside, marked, _⟩ := run_bind_eq_some.mp reads
  rw [run_rule, run_exactly] at marked
  rw [marked, List.head?_cons]

theorem escape_eq_none (other : text.head? ≠ some '\\') :
    (Atom.escape <$> escape).run text = none := by
  refine Option.eq_none_iff_forall_ne_some.mpr ?_
  rintro ⟨found, after⟩ reads
  refine other ?_
  obtain ⟨character, escaped, -⟩ := (run_map _ _).mp reads
  rw [run_escape.mp escaped, List.head?_cons]

/-- The first character of an atom tells which alternative it is. -/
theorem finds_atom [Steady body] {limit : Nat} (finds : Finds limit body) {sought : Atom}
    (canonical : sought.Canonical) (short : (sought.yield ++ rest).length < limit + 1) :
    (atom body).run (sought.yield ++ rest) = some (sought, rest) := by
  simp only [atom, run_orElse_eq_some]
  cases sought with
  | group opening derivation => exact .inl (finds_group finds canonical short)
  | charClass negated parts =>
    refine .inr ⟨group_eq_none (by rintro ⟨⟩), .inl (run_charClass.mpr ?_)⟩
    exact ⟨negated, parts, rfl, canonical.1, canonical.2, rfl⟩
  | any =>
    exact .inr ⟨group_eq_none (by rintro ⟨⟩), .inr ⟨charClass_eq_none (by rintro ⟨⟩), .inl rfl⟩⟩
  | start =>
    exact .inr ⟨group_eq_none (by rintro ⟨⟩), .inr ⟨charClass_eq_none (by rintro ⟨⟩),
      .inr ⟨mark_eq_none _ _ (by rintro ⟨⟩), .inl rfl⟩⟩⟩
  | stop =>
    exact .inr ⟨group_eq_none (by rintro ⟨⟩), .inr ⟨charClass_eq_none (by rintro ⟨⟩),
      .inr ⟨mark_eq_none _ _ (by rintro ⟨⟩), .inr ⟨mark_eq_none _ _ (by rintro ⟨⟩), .inl rfl⟩⟩⟩⟩
  | escape character =>
    exact .inr ⟨group_eq_none (by rintro ⟨⟩), .inr ⟨charClass_eq_none (by rintro ⟨⟩),
      .inr ⟨mark_eq_none _ _ (by rintro ⟨⟩), .inr ⟨mark_eq_none _ _ (by rintro ⟨⟩),
        .inr ⟨mark_eq_none _ _ (by rintro ⟨⟩), .inl rfl⟩⟩⟩⟩⟩
  | literal character =>
    have ordinary (special : Char) (isSpecial : Grammar.isSpecial special = true) :
        ((Atom.literal character).yield ++ rest).head? ≠ some special := by
      rintro ⟨⟩
      exact Bool.false_ne_true (canonical.1.symm.trans isSpecial)
    refine .inr ⟨group_eq_none (ordinary _ rfl), .inr ⟨charClass_eq_none (ordinary _ rfl),
      .inr ⟨mark_eq_none _ _ (ordinary _ rfl), .inr ⟨mark_eq_none _ _ (ordinary _ rfl),
        .inr ⟨mark_eq_none _ _ (ordinary _ rfl), .inr ⟨escape_eq_none (ordinary _ rfl), ?_⟩⟩⟩⟩⟩⟩
    rw [run_map, run_rule]
    have notSpecial : Grammar.isSpecial character = false := canonical.1
    exact ⟨character, (run_charWhere _).mpr ⟨rfl, by rw [notSpecial]; rfl⟩, rfl⟩

/-! ### Pieces and what is put together of them -/

theorem sound_piece [Steady body] (sound : Sound body) {found : Piece}
    (reads : (piece body).run text = some (found, rest)) :
    found.Canonical ∧ text = found.yield ++ rest := by
  simp only [piece, run_rule, run_bind_eq_some, run_optionally, run_pure, Option.some.injEq,
    Prod.mk.injEq] at reads
  obtain ⟨atom, _, first, quantifier, _, quantified, rfl, rfl⟩ := reads
  obtain ⟨canonical, rfl⟩ := sound_atom sound first
  obtain ⟨written, reads, rfl⟩ | ⟨-, rfl, rfl⟩ := quantified
  · obtain ⟨wellFormed, rfl, -⟩ := run_quantifier.mp reads
    refine ⟨Piece.canonical_mk.mpr ⟨canonical, ?_⟩, (List.append_assoc _ _ _).symm⟩
    rintro _ ⟨⟩
    exact wellFormed
  · exact ⟨Piece.canonical_mk.mpr ⟨canonical, by rintro _ ⟨⟩⟩,
      congrArg (· ++ _) (List.append_nil _).symm⟩

theorem quantifier_eq_none (stops : Stops opensQuantifier text) : quantifier.run text = none := by
  refine Option.eq_none_iff_forall_ne_some.mpr ?_
  rintro ⟨written, after⟩ reads
  obtain ⟨-, rfl, -⟩ := run_quantifier.mp reads
  obtain ⟨- | - | - | ⟨low, high⟩, lazily⟩ := written <;> cases stops _ rfl

/-- A piece is read up to what cannot belong to its quantifier. -/
theorem finds_piece [Steady body] {limit : Nat} (finds : Finds limit body) {sought : Piece}
    (canonical : sought.Canonical) (stops : Stops opensQuantifier rest)
    (short : (sought.yield ++ rest).length < limit + 1) :
    (piece body).run (sought.yield ++ rest) = some (sought, rest) := by
  obtain ⟨atom, quantifier⟩ := sought
  obtain ⟨canonical, quantified⟩ := Piece.canonical_mk.mp canonical
  simp only [piece, run_rule, run_bind_eq_some, run_optionally, run_pure, Option.some.injEq,
    Prod.mk.injEq]
  rw [Piece.yield, List.append_assoc] at short ⊢
  refine ⟨atom, _, finds_atom finds canonical short, quantifier, rest, ?_, rfl, rfl⟩
  cases quantifier with
  | none => exact .inr ⟨quantifier_eq_none stops, rfl, rfl⟩
  | some written =>
    refine .inl
      ⟨written, run_quantifier.mpr ⟨quantified written rfl, rfl, fun _ question => ?_⟩, rfl⟩
    cases stops _ question

theorem consumes_piece [Steady body] (sound : Sound body) : Consumes (piece body) := by
  intro text found rest reads
  obtain ⟨⟨wellFormed, -⟩, rfl⟩ := sound_piece sound reads
  obtain ⟨character, others, same, -⟩ := Piece.opens wellFormed
  rw [same, List.length_append, List.length_cons]
  omega

theorem piece_eq_none [Steady body] (sound : Sound body) (stops : Stops opensAtom text) :
    (piece body).run text = none := by
  refine Option.eq_none_iff_forall_ne_some.mpr ?_
  rintro ⟨found, after⟩ reads
  obtain ⟨⟨wellFormed, -⟩, rfl⟩ := sound_piece sound reads
  obtain ⟨character, others, same, opens⟩ := Piece.opens wellFormed
  rw [same] at stops
  rw [stops character rfl] at opens
  cases opens

theorem sound_sequence [Steady body] (sound : Sound body) {found : Sequence}
    (reads : (sequence body).run text = some (found, rest)) :
    found.Canonical ∧ text = found.yield ++ rest := by
  rw [sequence, run_map, run_rule] at reads
  obtain ⟨pieces, reads, rfl⟩ := reads
  rw [run_many (consumes_piece sound)] at reads
  rw [Sequence.canonical_ofList, Sequence.yield_ofList]
  induction reads with
  | stop _ => exact ⟨by rintro _ ⟨⟩, rfl⟩
  | more first _ inductionHypothesis =>
    obtain ⟨canonical, rfl⟩ := sound_piece sound first
    obtain ⟨all, rfl⟩ := inductionHypothesis
    exact ⟨List.forall_mem_cons.mpr ⟨canonical, all⟩, (List.append_assoc _ _ _).symm⟩

/-- A sequence is read up to a bar, a parenthesis that closes, or the end. -/
theorem finds_sequence [Steady body] (sound : Sound body) {limit : Nat} (finds : Finds limit body)
    {sought : Sequence} (canonical : sought.Canonical) (stops : Stops opensQuantifier rest)
    (ends : Stops opensAtom rest) (short : (sought.yield ++ rest).length < limit + 1) :
    (sequence body).run (sought.yield ++ rest) = some (sought, rest) := by
  obtain ⟨pieces, rfl⟩ := sought.exists_ofList
  rw [sequence, run_map, run_rule]
  refine ⟨pieces, (run_many (consumes_piece sound)).mpr ?_, rfl⟩
  rw [Sequence.canonical_ofList] at canonical
  rw [Sequence.yield_ofList] at short ⊢
  induction pieces with
  | nil => exact .stop (piece_eq_none sound ends)
  | cons piece pieces inductionHypothesis =>
    obtain ⟨first, others⟩ := List.forall_mem_cons.mp canonical
    rw [List.flatMap_cons, List.append_assoc] at short ⊢
    have behind : (Sequence.ofList pieces).WellFormed := (Sequence.canonical_ofList.mpr others).1
    refine .more (finds_piece finds first ?_ short) (inductionHypothesis others ?_)
    · rw [← Sequence.yield_ofList]
      exact behind.stops stops
    · rw [List.length_append] at short
      omega

/-! ### Whole texts -/

theorem sound_bar [Steady body] (sound : Sound body) {found : Sequence}
    (reads : (exactly '|' >>= fun _ => sequence body).run text = some (found, rest)) :
    found.Canonical ∧ text = '|' :: (found.yield ++ rest) := by
  obtain ⟨_, behind, marked, reads⟩ := run_bind_eq_some.mp reads
  obtain ⟨canonical, rfl⟩ := sound_sequence sound reads
  exact ⟨canonical, run_exactly.mp marked⟩

instance steady_alternation (layers : Nat) : Steady (alternation layers) := by
  induction layers with
  | zero => exact steady_failure
  | succ layers inductionHypothesis => unfold alternation; infer_instance

theorem sound_alternation (layers : Nat) : Sound (alternation layers) := by
  induction layers with
  | zero =>
    intro text found rest reads
    cases reads
  | succ layers sound =>
    intro text found rest reads
    simp only [alternation, run_rule, run_bind_eq_some,
      run_many (consumes_exactly _).bind, run_pure,
      Option.some.injEq, Prod.mk.injEq] at reads
    obtain ⟨first, middle, reads, others, last, repeated, rfl, rfl⟩ := reads
    obtain ⟨canonical, rfl⟩ := sound_sequence sound reads
    have behind : (∀ branch ∈ others, branch.Canonical) ∧
        middle = (others.flatMap fun branch => '|' :: branch.yield) ++ last := by
      clear reads
      induction repeated with
      | stop _ => exact ⟨by rintro _ ⟨⟩, rfl⟩
      | more first _ inductionHypothesis =>
        obtain ⟨canonical, rfl⟩ := sound_bar sound first
        obtain ⟨all, rfl⟩ := inductionHypothesis
        refine ⟨List.forall_mem_cons.mpr ⟨canonical, all⟩, ?_⟩
        simp
    obtain ⟨all, rfl⟩ := behind
    rw [Alternation.canonical_ofList, Alternation.yield_ofList]
    exact ⟨⟨canonical, all⟩, (List.append_assoc _ _ _).symm⟩

/-- No piece and no quantifier starts with a bar or a parenthesis that closes. -/
theorem stops_of_ends (ends : Stops (fun character => character != '|' && character != ')') text) :
    Stops opensQuantifier text ∧ Stops opensAtom text := by
  constructor <;>
  · intro character first
    have isEnd := ends character first
    simp only [Bool.and_eq_false_iff, bne_eq_false_iff_eq] at isEnd
    obtain rfl | rfl := isEnd <;> rfl

/-- Behind every branch there is a bar or what stands behind the alternation. -/
theorem stops_behind (branches : List Sequence) (closes : Stops (· != ')') rest) :
    Stops (fun character => character != '|' && character != ')')
      ((branches.flatMap fun branch => '|' :: branch.yield) ++ rest) := by
  cases branches with
  | nil =>
    intro character first
    have closing : (character != ')') = false := closes character first
    change (character != '|' && character != ')') = false
    rw [closing, Bool.and_false]
  | cons branch branches =>
    rintro character ⟨⟩
    rfl

/-- A branch is read up to where the others start. -/
theorem finds_branch [Steady body] (sound : Sound body) {limit : Nat} (finds : Finds limit body)
    {branch : Sequence} (canonical : branch.Canonical) (others : List Sequence)
    (closes : Stops (· != ')') rest)
    (short : (branch.yield ++ ((others.flatMap fun branch => '|' :: branch.yield) ++ rest)).length <
      limit + 1) :
    (sequence body).run
      (branch.yield ++ ((others.flatMap fun branch => '|' :: branch.yield) ++ rest)) =
      some (branch, (others.flatMap fun branch => '|' :: branch.yield) ++ rest) := by
  obtain ⟨quantifiers, atoms⟩ := stops_of_ends (stops_behind others closes)
  exact finds_sequence sound finds canonical quantifiers atoms short

theorem finds_branches [Steady body] (sound : Sound body) {limit : Nat} (finds : Finds limit body)
    {branches : List Sequence} (canonical : ∀ branch ∈ branches, branch.Canonical)
    (closes : Stops (· != ')') rest)
    (short : ((branches.flatMap fun branch => '|' :: branch.yield) ++ rest).length < limit + 1) :
    Repeated (exactly '|' >>= fun _ => sequence body).run
      ((branches.flatMap fun branch => '|' :: branch.yield) ++ rest) branches rest := by
  induction branches with
  | nil =>
    refine .stop (Option.eq_none_iff_forall_ne_some.mpr ?_)
    rintro ⟨found, after⟩ reads
    obtain ⟨-, rfl⟩ := sound_bar sound reads
    cases closes _ rfl
  | cons branch branches inductionHypothesis =>
    obtain ⟨isBranch, others⟩ := List.forall_mem_cons.mp canonical
    rw [List.flatMap_cons, List.append_assoc, List.cons_append] at short ⊢
    have shorter := Nat.lt_of_succ_lt short
    refine .more (run_bind_eq_some.mpr ⟨(), _, run_exactly.mpr rfl, ?_⟩)
      (inductionHypothesis others ?_)
    · exact finds_branch sound finds isBranch branches closes shorter
    · rw [List.length_append] at shorter
      exact Nat.lt_of_le_of_lt (Nat.le_add_left _ _) shorter

/-- A layer finds what is shorter than the number of layers. -/
theorem finds_alternation (layers : Nat) : Finds layers (alternation layers) := by
  induction layers with
  | zero => exact fun _ _ short => absurd short (Nat.not_lt_zero _)
  | succ layers finds =>
    intro sought rest canonical closes short
    have sound : Sound (alternation layers) := sound_alternation layers
    obtain ⟨first, others, rfl⟩ := sought.exists_ofList
    obtain ⟨isFirst, all⟩ := Alternation.canonical_ofList.mp canonical
    rw [Alternation.yield_ofList, List.append_assoc] at short ⊢
    simp only [alternation, run_rule, run_bind_eq_some,
      run_many (consumes_exactly _).bind, run_pure,
      Option.some.injEq, Prod.mk.injEq]
    refine ⟨first, _, finds_branch sound finds isFirst others closes short, others,
      rest, ?_, rfl, rfl⟩
    rw [List.length_append] at short
    exact finds_branches sound finds all closes (Nat.lt_of_le_of_lt (Nat.le_add_left _ _) short)

theorem run_pattern {layers : Nat} (enough : text.length < layers) {derivation : Alternation} :
    (pattern layers).run text = some (derivation, rest) ↔
      derivation.Canonical ∧ derivation.yield = text ∧ rest = [] := by
  simp only [pattern, run_rule, run_bind_eq_some, run_atEnd, run_pure,
    Option.some.injEq, Prod.mk.injEq]
  constructor
  · rintro ⟨found, _, reads, -, _, ⟨rfl, rfl⟩, rfl, rfl⟩
    obtain ⟨canonical, same⟩ := sound_alternation layers reads
    exact ⟨canonical, by rw [same, List.append_nil], rfl⟩
  · rintro ⟨canonical, rfl, rfl⟩
    refine ⟨derivation, [], ?_, (), [], ⟨rfl, rfl⟩, rfl, rfl⟩
    have ends : Stops (· != ')') [] := by rintro _ ⟨⟩
    have found : (alternation layers).run (derivation.yield ++ []) = some (derivation, []) :=
      finds_alternation layers canonical ends (by rwa [List.append_nil])
    rwa [List.append_nil] at found

instance steady_pattern (layers : Nat) :
    Steady (pattern layers) := by unfold pattern; infer_instance

theorem read_fst (text : List Char) :
    (read text).1 = ((pattern (text.length + 1)).run text).map Prod.fst := by
  unfold read run
  rcases pattern (text.length + 1) ⟨text, 0⟩ {} with ⟨- | ⟨value, input⟩, furthest⟩ <;> rfl

/-- Reading a text finds the derivation whose classes are read from left to right. -/
theorem read_eq_some {derivation : Alternation} :
    (read text).1 = some derivation ↔ derivation.Canonical ∧ derivation.yield = text := by
  rw [read_fst, Option.map_eq_some_iff]
  simp only [Prod.exists, run_pattern (Nat.lt_succ_self text.length)]
  constructor
  · rintro ⟨_, _, ⟨canonical, same, -⟩, rfl⟩
    exact ⟨canonical, same⟩
  · rintro ⟨canonical, same⟩
    exact ⟨derivation, [], ⟨canonical, same, rfl⟩, rfl⟩

/-- Of the derivations of a text, reading finds the one whose classes are read from left to
right. -/
theorem read_of_derives {derivation : Alternation} (derives : Derives derivation text) :
    (read text).1 = some derivation.regrouped :=
  read_eq_some.mpr ⟨⟨derives.regrouped.wellFormed, derivation.regrouped_regrouped⟩,
    derives.regrouped.yield⟩

/-- A text is read exactly if it has a derivation. -/
theorem read_eq_none : (read text).1 = none ↔ ¬ ∃ derivation, Derives derivation text := by
  constructor
  · rintro missing ⟨derivation, derives⟩
    rw [read_of_derives derives] at missing
    cases missing
  · intro none
    refine Option.eq_none_iff_forall_ne_some.mpr fun derivation found => none ?_
    obtain ⟨⟨wellFormed, -⟩, same⟩ := read_eq_some.mp found
    exact ⟨derivation, wellFormed, same⟩

end Rewind.Grammar
