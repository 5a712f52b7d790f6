/-
This file gathers how actions succeed. An action changes a state and either returns a value or
fails; when it fails, the state it has reached stays. The lemmas below run an action whose first
step is known, or take an action apart that is known to have succeeded, one step at a time.
-/

namespace Rewind.Action

variable {ε σ α β : Type}

/-- Runs an action on a part of a larger state. -/
@[inline] def onPart {τ δ : Type} (action : EStateM ε σ α) (part : τ → σ) (withPart : τ → σ → τ)
    (fault : ε → δ) : EStateM δ τ α := fun whole =>
  match action (part whole) with
  | .ok value changed => .ok value (withPart whole changed)
  | .error error changed => .error (fault error) (withPart whole changed)

theorem bind_of_ok {action : EStateM ε σ α} {next : α → EStateM ε σ β} {state reached : σ}
    {value : α} (succeeded : action state = .ok value reached) :
    (action >>= next) state = next value reached := by
  change EStateM.bind action next state = _
  rw [EStateM.bind, succeeded]

theorem bind_of_error {action : EStateM ε σ α} {next : α → EStateM ε σ β} {state reached : σ}
    {error : ε} (failed : action state = .error error reached) :
    (action >>= next) state = .error error reached := by
  change EStateM.bind action next state = _
  rw [EStateM.bind, failed]

@[simp] theorem bind_eq_ok_iff {action : EStateM ε σ α} {next : α → EStateM ε σ β}
    {state final : σ} {result : β} :
    (action >>= next) state = .ok result final ↔
      ∃ value reached, action state = .ok value reached ∧
        next value reached = .ok result final := by
  simp only [bind, EStateM.bind]
  cases action state with
  | ok value reached =>
    constructor
    · exact fun succeeded => ⟨value, reached, rfl, succeeded⟩
    · rintro ⟨_, _, same, succeeded⟩
      cases same
      exact succeeded
  | error => simp

@[simp] theorem pure_eq_ok_iff {state final : σ} {value result : α} :
    (pure value : EStateM ε σ α) state = .ok result final ↔ value = result ∧ state = final := by
  change EStateM.Result.ok value state = .ok result final ↔ _
  rw [EStateM.Result.ok.injEq]

@[simp] theorem throw_eq_ok_iff {state final : σ} {error : ε} {result : α} :
    (throw error : EStateM ε σ α) state = .ok result final ↔ False := by
  change EStateM.Result.error error state = .ok result final ↔ _
  exact iff_of_false (fun same => nomatch same) not_false

@[simp] theorem get_eq_ok_iff {state final result : σ} :
    (get : EStateM ε σ σ) state = .ok result final ↔ state = result ∧ state = final := by
  change EStateM.Result.ok state state = .ok result final ↔ _
  rw [EStateM.Result.ok.injEq]

@[simp] theorem set_eq_ok_iff {state final value : σ} {result : PUnit} :
    (set value : EStateM ε σ PUnit) state = .ok result final ↔ value = final := by
  change EStateM.Result.ok PUnit.unit value = .ok result final ↔ _
  simp

@[simp] theorem modify_eq_ok_iff {state final : σ} {change : σ → σ} {result : PUnit} :
    (modify change : EStateM ε σ PUnit) state = .ok result final ↔ change state = final := by
  show EStateM.Result.ok PUnit.unit (change state) = .ok result final ↔ _
  simp

end Rewind.Action
