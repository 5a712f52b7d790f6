/-
This file says what parsers read, whatever they note about failures. The offset at which a parser
starts and what has failed before change nothing but the record of the furthest failure, so a parser
can be taken for a function of the text alone; and how a parser that is put together of others reads
a text follows from how these do. A repetition goes on until the repeated parser fails, provided
that it never reads nothing.
-/

import Mathlib
import Rewind.Pattern.Parser

namespace Rewind

/-- Where the start of the text is left behind, a record says what was expected. -/
def Furthest.Tells (furthest : Furthest) : Prop := 0 < furthest.offset → furthest.attempts ≠ []

theorem Furthest.Tells.record {furthest : Furthest} (tells : furthest.Tells) (label : Rule)
    (offset before : Nat) : (furthest.record label offset before).Tells := by
  unfold Furthest.record
  split
  · exact tells
  · split
    · exact fun _ => List.append_ne_nil_of_right_ne_nil _ (List.cons_ne_nil _ _)
    · split
      · exact fun _ => List.cons_ne_nil _ _
      · exact tells

namespace Parser

variable {α β : Type} {parser other : Parser α} {next : α → Parser β} {text rest : List Char}

/-- What a parser makes of a text: a value and what is left, unless it fails. -/
def run (parser : Parser α) (text : List Char) : Option (α × List Char) :=
  (parser { rest := text, offset := 0 } {}).1.map fun result => (result.1, result.2.rest)

/-- A parser reads the same wherever it starts and whatever has failed before, and gives nothing
back. -/
class Steady (parser : Parser α) : Prop where
  reads : ∀ input furthest,
    (parser input furthest).1.map (fun result => (result.1, result.2.rest)) =
    parser.run input.rest
  tells : ∀ input furthest, furthest.Tells → (parser input furthest).2.Tells
  shrinks : ∀ {text value rest}, parser.run text = some (value, rest) → rest.length ≤ text.length

/-! ### Single steps -/

@[simp] theorem run_pure (value : α) (text : List Char) :
    (pure value : Parser α).run text = some (value, text) := rfl

@[simp] theorem run_failure (text : List Char) : (failure : Parser α).run text = none := rfl

@[simp] theorem run_charWhere (accepts : Char → Bool) {character : Char} :
    (charWhere accepts).run text = some (character, rest) ↔
      text = character :: rest ∧ accepts character = true := by
  unfold run charWhere
  cases text with
  | nil => simp
  | cons head tail =>
    dsimp only
    split
    · simp only [Option.map_some, Option.some.injEq, Prod.mk.injEq, List.cons.injEq]
      grind
    · grind

@[simp] theorem run_atEnd {value : Unit} :
    atEnd.run text = some (value, rest) ↔ text = [] ∧ rest = [] := by
  unfold run atEnd
  cases text with
  | nil => simp [eq_comm]
  | cons head tail => simp

instance steady_pure (value : α) : Steady (pure value : Parser α) :=
  ⟨fun _ _ => rfl, fun _ _ tells => tells, fun same => by cases same; rfl⟩

instance steady_failure : Steady (failure : Parser α) :=
  ⟨fun _ _ => rfl, fun _ _ tells => tells, fun same => by cases same⟩

instance steady_charWhere (accepts : Char → Bool) : Steady (charWhere accepts) := by
  refine ⟨?_, ?_, ?_⟩
  · rintro ⟨- | ⟨head, tail⟩, offset⟩ furthest
    · rfl
    · unfold run charWhere
      dsimp only
      split <;> rfl
  · rintro ⟨- | ⟨head, tail⟩, offset⟩ furthest tells
    · exact tells
    · unfold charWhere
      dsimp only
      split <;> exact tells
  · intro text character rest found
    obtain ⟨rfl, -⟩ := (run_charWhere _).mp found
    exact Nat.le_succ _

instance steady_atEnd : Steady atEnd := by
  refine ⟨?_, ?_, ?_⟩
  · rintro ⟨- | ⟨head, tail⟩, offset⟩ furthest <;> rfl
  · rintro ⟨- | ⟨head, tail⟩, offset⟩ furthest tells <;> exact tells
  · intro text value rest found
    obtain ⟨rfl, rfl⟩ := run_atEnd.mp found
    rfl

/-! ### One parser after the other -/

theorem bind_apply (parser : Parser α) (next : α → Parser β) (input : Input) (furthest : Furthest) :
    (parser >>= next) input furthest =
      match parser input furthest with
      | (some (value, input), furthest) => next value input furthest
      | (none, furthest) => (none, furthest) := rfl

theorem run_bind [second : ∀ value, Steady (next value)] (text : List Char) :
    (parser >>= next).run text = (parser.run text).bind fun result =>
      (next result.1).run result.2 := by
  unfold run
  rw [bind_apply]
  rcases parser ⟨text, 0⟩ {} with ⟨- | ⟨value, input⟩, furthest⟩
  · rfl
  · exact (second value).reads input furthest

@[simp] theorem run_bind_eq_some [∀ value, Steady (next value)] {value : β} :
    (parser >>= next).run text = some (value, rest) ↔
      ∃ first middle, parser.run text = some (first, middle) ∧
        (next first).run middle = some (value, rest) := by
  rw [run_bind, Option.bind_eq_some_iff, Prod.exists]

instance steady_bind [first : Steady parser] [second : ∀ value, Steady (next value)] :
    Steady (parser >>= next) := by
  refine ⟨?_, ?_, ?_⟩
  · intro input furthest
    rw [run_bind, ← first.reads input furthest, bind_apply]
    rcases parser input furthest with ⟨- | ⟨value, after⟩, later⟩
    · rfl
    · exact (second value).reads after later
  · intro input furthest tells
    have told := first.tells input furthest tells
    rw [bind_apply]
    generalize parser input furthest = outcome at told
    rcases outcome with ⟨- | ⟨value, after⟩, later⟩
    · exact told
    · exact (second value).tells after later told
  · intro text value rest found
    obtain ⟨read, middle, before, behind⟩ := run_bind_eq_some.mp found
    exact ((second read).shrinks behind).trans (first.shrinks before)

@[simp] theorem run_map (function : α → β) (parser : Parser α) {value : β} :
    (function <$> parser).run text = some (value, rest) ↔
      ∃ first, parser.run text = some (first, rest) ∧ function first = value := by
  change (parser >>= fun first => pure (function first)).run text = _ ↔ _
  rw [run_bind_eq_some]
  constructor
  · rintro ⟨first, middle, found, same⟩
    cases same
    exact ⟨first, found, rfl⟩
  · rintro ⟨first, found, rfl⟩
    exact ⟨first, rest, found, rfl⟩

instance steady_map (function : α → β) [Steady parser] : Steady (function <$> parser) :=
  inferInstanceAs (Steady (parser >>= fun first => pure (function first)))

@[simp] theorem run_exactly {character : Char} {value : Unit} :
    (exactly character).run text = some (value, rest) ↔ text = character :: rest := by
  unfold exactly
  rw [run_bind_eq_some]
  constructor
  · rintro ⟨first, middle, found, same⟩
    obtain ⟨rfl, isIt⟩ := (run_charWhere _).mp found
    cases same
    rw [beq_iff_eq.mp isIt]
  · rintro rfl
    exact ⟨character, rest, (run_charWhere _).mpr ⟨rfl, beq_self_eq_true _⟩, rfl⟩

theorem exactly_eq_none {character : Char} :
    (exactly character).run text = none ↔ text.head? ≠ some character := by
  rw [Option.eq_none_iff_forall_ne_some, ← not_exists_not]
  simp only [ne_eq, not_not, Prod.exists, run_exactly]
  cases text <;> simp

instance steady_exactly (character : Char) : Steady (exactly character) := steady_bind

/-! ### Rules and choices -/

@[simp] theorem run_rule (label : Rule) (parser : Parser α) :
    (rule label parser).run = parser.run := by
  funext text
  unfold run rule
  rcases parser ⟨text, 0⟩ {} with ⟨- | ⟨value, input⟩, furthest⟩ <;> rfl

instance steady_rule (label : Rule) [steady : Steady parser] : Steady (rule label parser) := by
  refine ⟨?_, ?_, ?_⟩
  · intro input furthest
    rw [run_rule, ← steady.reads input furthest]
    unfold rule
    rcases parser input furthest with ⟨- | ⟨value, after⟩, later⟩ <;> rfl
  · intro input furthest tells
    have told := steady.tells input furthest tells
    unfold rule
    generalize parser input furthest = outcome at told
    rcases outcome with ⟨- | ⟨value, after⟩, later⟩
    · exact told.record _ _ _
    · exact told
  · intro text value rest found
    rw [run_rule] at found
    exact steady.shrinks found

theorem orElse_apply (parser other : Parser α) (input : Input) (furthest : Furthest) :
    (parser <|> other) input furthest =
      match parser input furthest with
      | (some result, furthest) => (some result, furthest)
      | (none, furthest) => other input furthest := rfl

theorem run_orElse [second : Steady other] (text : List Char) :
    (parser <|> other).run text = (parser.run text).or (other.run text) := by
  unfold run
  rw [orElse_apply]
  rcases parser ⟨text, 0⟩ {} with ⟨- | ⟨value, input⟩, furthest⟩
  · exact second.reads ⟨text, 0⟩ furthest
  · rfl

@[simp] theorem run_orElse_eq_some [Steady other] {result : α × List Char} :
    (parser <|> other).run text = some result ↔
      parser.run text = some result ∨ parser.run text = none ∧ other.run text = some result := by
  rw [run_orElse, Option.or_eq_some_iff]

instance steady_orElse [first : Steady parser] [second : Steady other] :
    Steady (parser <|> other) := by
  refine ⟨?_, ?_, ?_⟩
  · intro input furthest
    rw [run_orElse, ← first.reads input furthest, orElse_apply]
    rcases parser input furthest with ⟨- | ⟨value, after⟩, later⟩
    · exact second.reads input later
    · rfl
  · intro input furthest tells
    have told := first.tells input furthest tells
    rw [orElse_apply]
    generalize parser input furthest = outcome at told
    rcases outcome with ⟨- | ⟨value, after⟩, later⟩
    · exact second.tells input later told
    · exact told
  · intro text value rest found
    exact (run_orElse_eq_some.mp found).elim first.shrinks fun alternative =>
      second.shrinks alternative.2

@[simp] theorem run_optionally {value : Option α} :
    (optionally parser).run text = some (value, rest) ↔
      (∃ found, parser.run text = some (found, rest) ∧ value = some found) ∨
        parser.run text = none ∧ value = none ∧ rest = text := by
  unfold optionally
  have absent : (some <$> parser).run text = none ↔ parser.run text = none := by
    simp only [Option.eq_none_iff_forall_ne_some, Prod.forall, ne_eq, run_map, not_exists, not_and]
    exact ⟨fun all first after found => all _ _ first found rfl,
      fun all _ after first found _ => all first after found⟩
  rw [run_orElse_eq_some, run_map, absent, run_pure, Option.some.injEq, Prod.mk.injEq]
  grind

instance steady_optionally [Steady parser] : Steady (optionally parser) := steady_orElse

/-! ### Repetitions -/

/-- A reading of a text is repeated until it fails. -/
inductive Repeated (reading : List Char → Option (α × List Char)) :
    List Char → List α → List Char → Prop
  | stop {text : List Char} (fails : reading text = none) : Repeated reading text [] text
  | more {text middle rest : List Char} {value : α} {values : List α}
    (first : reading text = some (value, middle)) (others : Repeated reading middle values rest) :
    Repeated reading text (value :: values) rest

/-- A parser reads at least one character. -/
def Consumes (parser : Parser α) : Prop :=
  ∀ text value rest, parser.run text = some (value, rest) → rest.length < text.length

theorem consumes_charWhere (accepts : Char → Bool) : Consumes (charWhere accepts) := by
  intro text character rest found
  rw [((run_charWhere _).mp found).1]
  exact Nat.lt_succ_self _

theorem consumes_exactly (character : Char) : Consumes (exactly character) := by
  intro text value rest found
  rw [run_exactly.mp found]
  exact Nat.lt_succ_self _

theorem Consumes.bind (consumes : Consumes parser) [second : ∀ value, Steady (next value)] :
    Consumes (parser >>= next) := by
  intro text value rest found
  obtain ⟨first, middle, before, behind⟩ := run_bind_eq_some.mp found
  exact Nat.lt_of_le_of_lt ((second first).shrinks behind) (consumes _ _ _ before)

theorem Consumes.map (consumes : Consumes parser) (function : α → β) :
    Consumes (function <$> parser) := by
  intro text value rest found
  obtain ⟨first, before, -⟩ := (run_map _ _).mp found
  exact consumes _ _ _ before

theorem Consumes.rule (consumes : Consumes parser) (label : Rule) :
    Consumes (rule label parser) := by
  intro text value rest found
  rw [run_rule] at found
  exact consumes _ _ _ found

theorem Consumes.orElse (consumes : Consumes parser) [Steady other] (alternative : Consumes other) :
    Consumes (parser <|> other) := by
  intro text value rest found
  exact (run_orElse_eq_some.mp found).elim (consumes _ _ _) fun second => alternative _ _ _ second.2

instance steady_manyUpTo [Steady parser] (limit : Nat) : Steady (manyUpTo parser limit) := by
  induction limit with
  | zero => exact steady_pure _
  | succ limit inductionHypothesis => exact steady_orElse

theorem Repeated.unique {reading : List Char → Option (α × List Char)} {values others : List α}
    {last : List Char} (repeated : Repeated reading text values rest)
    (again : Repeated reading text others last) : values = others ∧ rest = last := by
  induction repeated generalizing others last with
  | stop fails =>
    cases again with
    | stop _ => exact ⟨rfl, rfl⟩
    | more first _ =>
      rw [fails] at first
      cases first
  | more first _ inductionHypothesis =>
    cases again with
    | stop fails =>
      rw [fails] at first
      cases first
    | more second later =>
      rw [first] at second
      cases second
      obtain ⟨rfl, rfl⟩ := inductionHypothesis later
      exact ⟨rfl, rfl⟩

/-- A limit that is larger than the text is never reached. -/
theorem exists_repeated [Steady parser] (consumes : Consumes parser) {limit : Nat}
    (enough : text.length < limit) :
    ∃ values rest, (manyUpTo parser limit).run text = some (values, rest) ∧
      Repeated parser.run text values rest := by
  induction limit generalizing text with
  | zero => exact absurd enough (Nat.not_lt_zero _)
  | succ limit inductionHypothesis =>
    simp only [manyUpTo, run_orElse, run_bind]
    cases found : parser.run text with
    | none => exact ⟨[], text, rfl, .stop found⟩
    | some result =>
      obtain ⟨first, middle⟩ := result
      have shorter : middle.length < limit :=
        Nat.lt_of_lt_of_le (consumes text first middle found) (Nat.le_of_lt_succ enough)
      obtain ⟨values, last, reads, repeated⟩ := inductionHypothesis shorter
      refine ⟨first :: values, last, ?_, .more found repeated⟩
      rw [Option.bind_some, reads]
      rfl

theorem run_many [Steady parser] (consumes : Consumes parser) {values : List α} :
    (many parser).run text = some (values, rest) ↔ Repeated parser.run text values rest := by
  obtain ⟨found, last, reads, repeated⟩ :=
    exists_repeated consumes (Nat.lt_succ_self text.length)
  change (manyUpTo parser (text.length + 1)).run text = _ ↔ _
  rw [reads]
  constructor
  · intro same
    cases same
    exact repeated
  · intro again
    obtain ⟨rfl, rfl⟩ := repeated.unique again
    rfl

instance steady_many [Steady parser] : Steady (many parser) := by
  refine ⟨?_, ?_, ?_⟩
  · intro input furthest
    exact (steady_manyUpTo (input.rest.length + 1)).reads input furthest
  · intro input furthest tells
    exact (steady_manyUpTo (input.rest.length + 1)).tells input furthest tells
  · intro text values rest found
    exact (steady_manyUpTo (text.length + 1)).shrinks found

theorem run_manyOnce [Steady parser] (consumes : Consumes parser) {values : List α} :
    (manyOnce parser).run text = some (values, rest) ↔
      values ≠ [] ∧ Repeated parser.run text values rest := by
  unfold manyOnce
  rw [run_bind_eq_some]
  constructor
  · rintro ⟨first, middle, found, more⟩
    obtain ⟨others, after, reads, same⟩ := run_bind_eq_some.mp more
    cases same
    exact ⟨List.cons_ne_nil _ _, .more found ((run_many consumes).mp reads)⟩
  · rintro ⟨some, repeated⟩
    cases repeated with
    | stop _ => exact absurd rfl some
    | more first others =>
      refine ⟨_, _, first, run_bind_eq_some.mpr ⟨_, _, ?_, rfl⟩⟩
      exact (run_many consumes).mpr others

instance steady_manyOnce [Steady parser] : Steady (manyOnce parser) := steady_bind

/-! ### Runs of characters -/

/-- A text does not start with a character that passes a test. -/
def Stops (accepts : Char → Bool) (text : List Char) : Prop :=
  ∀ character ∈ text.head?, accepts character = false

theorem charWhere_eq_none {accepts : Char → Bool} :
    (charWhere accepts).run text = none ↔ Stops accepts text := by
  simp only [Option.eq_none_iff_forall_ne_some, Prod.forall, ne_eq, run_charWhere, not_and, Stops]
  cases text <;> simp

theorem repeated_charWhere {accepts : Char → Bool} {characters : List Char} :
    Repeated (charWhere accepts).run text characters rest ↔
      text = characters ++ rest ∧ (∀ character ∈ characters, accepts character = true) ∧
        Stops accepts rest := by
  constructor
  · intro repeated
    induction repeated with
    | stop fails => exact ⟨rfl, by simp, charWhere_eq_none.mp fails⟩
    | more first others inductionHypothesis =>
      obtain ⟨rfl, passes⟩ := (run_charWhere _).mp first
      obtain ⟨rfl, all, stops⟩ := inductionHypothesis
      exact ⟨rfl, List.forall_mem_cons.mpr ⟨passes, all⟩, stops⟩
  · rintro ⟨rfl, all, stops⟩
    induction characters with
    | nil => exact .stop (charWhere_eq_none.mpr stops)
    | cons character characters inductionHypothesis =>
      obtain ⟨passes, others⟩ := List.forall_mem_cons.mp all
      exact .more ((run_charWhere _).mpr ⟨rfl, passes⟩) (inductionHypothesis others)

end Parser

end Rewind
