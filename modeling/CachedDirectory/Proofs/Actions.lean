import CachedDirectory.Action
import Mathlib.Logic.Relation

/-!
# What actions do in steps

An action is followed by looking at a part of its state: along the action that
part goes through steps of a given sort, any number of them, and it does so also
if the action fails. Actions made of smaller ones are followed by following
these, so the sort of a step has to be found only at the places where a state is
changed.
-/

namespace CachedDirectory

/-- A sequence of two answers gives a value if the first one does and the second
one on it. -/
theorem Answer.bind_eq_ok_iff {α β : Type} {answer : Answer α}
    {next : α → Answer β} {value : β} :
    (answer >>= next) = .ok value ↔ ∃ given,
        answer = .ok given ∧ next given = .ok value := by
  cases answer with
  | ok given =>
      exact ⟨fun equality =>
        ⟨given, rfl, equality⟩, fun ⟨_, same, equality⟩ => by
        cases same
        exact equality⟩
  | error error =>
      exact ⟨fun equality =>
        (nomatch equality), fun ⟨_, same, _⟩ => nomatch same⟩

/-- A sequence of two answers fails if the first one does, or the second one on
its value. -/
theorem Answer.bind_eq_error_iff {α β : Type} {answer : Answer α}
    {next : α → Answer β} {error : DirectoryError} :
    (answer >>= next) = .error error ↔
      answer = .error error ∨ ∃ given,
          answer = .ok given ∧ next given = .error error := by
  cases answer with
  | ok given =>
      constructor
      · exact fun failed => Or.inr ⟨given, rfl, failed⟩
      · rintro (failed | ⟨_, same, failed⟩)
        · cases failed
        · cases same
          exact failed
  | error found =>
      constructor
      · intro failed
        cases failed
        exact Or.inl rfl
      · rintro (failed | ⟨_, same, _⟩)
        · cases failed
          rfl
        · cases same

namespace Action

open Relation

variable {σ τ α β : Type} {view : σ → τ} {step : τ → τ → Prop}

/-- A sequence of two actions gives a value if the first one does and then the
second one on it. -/
theorem run_bind_eq_ok_iff {action : Action σ α} {next : α → Action σ β}
    {state after : σ} {value : β} :
    (action >>= next).run state = (.ok value, after) ↔
      ∃ given between,
        action.run state = (.ok given, between) ∧
          (next given).run between = (.ok value, after) := by
  rcases result : action.run state with ⟨answer, between⟩
  cases answer with
  | ok given =>
      rw [run_bind_ok result]
      exact ⟨fun equality =>
        ⟨given, between, rfl, equality⟩, fun ⟨_, _, same, equality⟩ => by
        cases same
        exact equality⟩
  | error error =>
      rw [run_bind_error result]
      exact ⟨fun equality =>
        (nomatch equality), fun ⟨_, _, same, _⟩ => nomatch same⟩

/-- Whether the visible part of a state only goes through steps of a sort along
an action. -/
def Follows (view : σ → τ) (step : τ → τ → Prop) (action : Action σ α) : Prop :=
  ∀ state, ReflTransGen step (view state) (view (action.run state).2)

theorem follows_pure (value : α) :
    Follows view step (pure value : Action σ α) :=
  fun _ => .refl

theorem follows_fail (error : DirectoryError) :
    Follows view step (fail error : Action σ α) :=
  fun _ => .refl

theorem follows_observe (answer : σ → Answer α) :
    Follows view step (observe answer) :=
  fun _ => .refl

theorem Follows.bind {action : Action σ α} {next : α → Action σ β}
    (first : Follows view step action)
    (second : ∀ value, Follows view step (next value)) :
    Follows view step (action >>= next) := by
  intro state
  have steps := first state
  rcases result : action.run state with ⟨answer, after⟩
  rw [result] at steps
  cases answer with
  | ok value =>
      rw [run_bind_ok result]
      exact steps.trans (second value after)
  | error error =>
      rw [run_bind_error result]
      exact steps

/-- What comes after an answer is run only if the answer is a value. -/
theorem follows_ofAnswer_bind {answer : Answer α} {next : α → Action σ β}
    (second : ∀ value, answer = .ok value → Follows view step (next value)) :
    Follows view step (ofAnswer answer >>= next) := by
  intro state
  cases answer with
  | ok value =>
      rw [run_bind_ok (run_ofAnswer (.ok value) state)]
      exact second value rfl state
  | error error =>
      rw [run_bind_error (run_ofAnswer (.error error) state)]

end Action

end CachedDirectory
