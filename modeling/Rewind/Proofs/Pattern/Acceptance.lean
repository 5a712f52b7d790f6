/-
This file settles which texts are patterns, and which pattern each of them is. A text is refused for
its syntax exactly if it has no derivation. Otherwise its derivation decides, the one whose classes
are read from left to right: a text may have others, but they differ from it only in how they read
their classes.
-/

import Mathlib
import Rewind.Pattern.Parse
import Rewind.Proofs.Pattern.Recognition
import Rewind.Proofs.Pattern.Resolution

namespace Rewind

/-! ### Syntax errors -/

/-- Whatever a failure is recorded over, something has been recorded afterwards. -/
theorem Furthest.Tells.attempts_ne_nil {furthest : Furthest} (tells : furthest.Tells) (label : Rule)
    (offset before : Nat) : (furthest.record label offset before).attempts ≠ [] := by
  unfold Furthest.record
  split
  · rename_i counted
    unfold Furthest.countAt at counted
    split at counted
    · exact List.ne_nil_of_length_eq_add_one counted
    · cases counted
  · split
    · exact List.append_ne_nil_of_right_ne_nil _ (List.cons_ne_nil _ _)
    · rename_i elsewhere
      split
      · exact List.cons_ne_nil _ _
      · rename_i notBehind
        exact tells (Nat.lt_of_le_of_lt (Nat.zero_le offset) (by omega))

theorem Parser.attempts_ne_nil {α : Type} {label : Rule} {body : Parser α} [steady : Steady body]
    {input : Input} {furthest : Furthest} (tells : furthest.Tells)
    (failed : (rule label body input furthest).1 = none) :
    (rule label body input furthest).2.attempts ≠ [] := by
  have told := steady.tells input furthest tells
  unfold rule at failed ⊢
  generalize body input furthest = outcome at told failed
  rcases outcome with ⟨- | ⟨value, after⟩, later⟩
  · exact told.attempts_ne_nil _ _ _
  · cases failed

/-- Where a text is not read, a rule has failed furthest. -/
theorem Grammar.attempts_ne_nil {text : List Char} (failed : (read text).1 = none) :
    (read text).2.attempts ≠ [] := by
  have recorded : ((pattern (text.length + 1) ⟨text, 0⟩ {}).1 = none) →
      (pattern (text.length + 1) ⟨text, 0⟩ {}).2.attempts ≠ [] := by
    unfold pattern
    exact Parser.attempts_ne_nil (absurd · (Nat.lt_irrefl 0))
  unfold read at failed ⊢
  generalize pattern (text.length + 1) ⟨text, 0⟩ {} = outcome at recorded failed
  rcases outcome with ⟨- | ⟨value, after⟩, later⟩
  · exact recorded rfl
  · cases failed

theorem Rule.inOrder_ne_nil {rules : List Rule} (some : rules ≠ []) : Rule.inOrder rules ≠ [] := by
  obtain ⟨rule, member⟩ := List.exists_mem_of_ne_nil rules some
  have listed : rule ∈ Rule.all := by cases rule <;> decide
  exact List.ne_nil_of_mem (List.mem_filter.mpr ⟨listed, List.contains_iff_mem.mpr member⟩)

/-! ### Patterns -/

namespace Pattern

open Rewind.Derivation Rewind.Grammar

variable {text : List Char}

/-- A text that is not read is refused for its syntax. -/
theorem parse_of_not_read (failed : (read text).1 = none) :
    ∃ error rules, parse text = .error error ∧ error.cause = .expected rules ∧ rules ≠ [] := by
  have recorded := attempts_ne_nil failed
  unfold parse
  generalize read text = outcome at failed recorded
  obtain ⟨- | derivation, furthest⟩ := outcome
  · exact ⟨_, _, rfl, rfl, Rule.inOrder_ne_nil recorded⟩
  · cases failed

/-- A text that is read is judged by its derivation. -/
theorem parse_of_read {derivation : Alternation} (found : (read text).1 = some derivation) :
    parse text = do
      let (branches, stop) ← derivation.resolve 0
      return { expr := Expr.ofBranches ⟨0, stop⟩ branches, span := ⟨0, stop⟩ } := by
  unfold parse
  generalize read text = outcome at found
  obtain ⟨- | read, furthest⟩ := outcome
  · cases found
  · cases found
    rfl

theorem parse_of_read_eq_ok {derivation : Alternation} (found : (read text).1 = some derivation)
    {pattern : Pattern} :
    parse text = .ok pattern ↔ derivation.Admissible ∧ pattern = derivation.pattern := by
  simp only [parse_of_read found, bind_eq_ok, derivation.resolve_eq_ok, pure_eq_ok, and_assoc,
    exists_and_left, exists_eq_left, Alternation.pattern, spanAt]

theorem judged_parse_of_read {derivation : Alternation} (found : (read text).1 = some derivation) :
    Judged (parse text) := by
  rw [parse_of_read found]
  exact (derivation.judged_resolve 0).bind fun _ => judged_pure _

theorem syntax_refused_iff :
    (∃ error rules, parse text = .error error ∧ error.cause = .expected rules) ↔
    ¬ ∃ derivation, Derives derivation text := by
  rw [← read_eq_none]
  constructor
  · rintro ⟨error, rules, refused, cause⟩
    refine Option.eq_none_iff_forall_ne_some.mpr fun derivation found => ?_
    exact judged_parse_of_read found error rules refused cause
  · intro failed
    obtain ⟨error, rules, refused, cause, -⟩ := parse_of_not_read failed
    exact ⟨error, rules, refused, cause⟩

theorem parse_eq_ok_iff {pattern : Pattern} : parse text = .ok pattern ↔
    ∃ derivation, Derives derivation text ∧ derivation.regrouped.Admissible ∧
      pattern = derivation.regrouped.pattern := by
  constructor
  · intro accepted
    cases found : (read text).1 with
    | none =>
      obtain ⟨error, rules, refused, -⟩ := parse_of_not_read found
      rw [accepted] at refused
      cases refused
    | some derivation =>
      obtain ⟨⟨wellFormed, regrouped⟩, same⟩ := read_eq_some.mp found
      refine ⟨derivation, ⟨wellFormed, same⟩, ?_⟩
      rw [regrouped]
      exact (parse_of_read_eq_ok found).mp accepted
  · rintro ⟨derivation, derives, admissible, rfl⟩
    exact (parse_of_read_eq_ok (read_of_derives derives)).mpr ⟨admissible, rfl⟩

/-- A text is refused for its syntax exactly if it has no derivation, and then the message lists
what was expected. It is a pattern exactly if it has a derivation which, its classes read from left
to right, is admissible; then it is the pattern of that derivation. All derivations of a text are
the same once their classes are read from left to right. Patterns are reduced. -/
theorem parse_reads_grammar (text : List Char) :
    ((∃ error rules, parse text = .error error ∧ error.cause = .expected rules) ↔
      ¬ ∃ derivation, Derives derivation text) ∧
    (∀ error rules, parse text = .error error → error.cause = .expected rules →
      error.message = "expected one of: " ++ ", ".intercalate (rules.map Rule.label)) ∧
    (∀ pattern, parse text = .ok pattern ↔ ∃ derivation, Derives derivation text ∧
      derivation.regrouped.Admissible ∧ pattern = derivation.regrouped.pattern) ∧
    (∀ derivation other, Derives derivation text → Derives other text →
      derivation.regrouped = other.regrouped) ∧
    ∀ pattern, parse text = .ok pattern → pattern.expr.Reduced := by
  refine ⟨syntax_refused_iff, fun error rules refused cause => ?_, fun _ => parse_eq_ok_iff,
    fun derivation other derives also => ?_, fun pattern accepted => ?_⟩
  · have unread : (read text).1 = none :=
      read_eq_none.mpr (syntax_refused_iff.mp ⟨_, _, refused, cause⟩)
    obtain ⟨found, listed, same, expected, nonempty⟩ := parse_of_not_read unread
    rw [refused] at same
    cases same
    cases cause.symm.trans expected
    rw [ParseError.message, cause]
    cases rules with
    | nil => exact absurd rfl nonempty
    | cons rule rules => rfl
  · exact Option.some.inj ((read_of_derives derives).symm.trans (read_of_derives also))
  · obtain ⟨derivation, derives, -, rfl⟩ := parse_eq_ok_iff.mp accepted
    exact Alternation.reduced_pattern derives.regrouped.wellFormed

end Pattern

end Rewind
