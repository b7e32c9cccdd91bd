import CachedDirectory.Retry

/-!
# Actions

An action works on a state and gives an answer. If it fails, what it did to the
state before stays done, so a sequence of actions that fails midway leaves the
effect of its first part.
-/

namespace CachedDirectory

/-- An operation on a state that may fail. -/
structure Action (σ α : Type) where
  run : σ → Answer α × σ

namespace Action

variable {σ τ α β : Type}

/-- Gives a value and leaves the state as it is. -/
def give (value : α) : Action σ α :=
  ⟨fun state => (.ok value, state)⟩

/-- Goes on with the value of an action, unless it fails. -/
def andThen (action : Action σ α) (next : α → Action σ β) : Action σ β :=
  ⟨fun state =>
    match action.run state with
    | (.ok value, after) => (next value).run after
    | (.error error, after) => (.error error, after)⟩

instance : Monad (Action σ) where
  pure := give
  bind := andThen

/-- Gives the answer and leaves the state as it is. -/
def ofAnswer (answer : Answer α) : Action σ α :=
  ⟨fun state => (answer, state)⟩

/-- Fails and leaves the state as it is. -/
def fail (error : DirectoryError) : Action σ α :=
  ofAnswer (.error error)

/-- Gives the answer that a state has, and leaves the state as it is. -/
def observe (answer : σ → Answer α) : Action σ α :=
  ⟨fun state => (answer state, state)⟩

/-- An action on a part of a state. -/
def onPart (part : σ → τ) (replace : τ → σ → σ) (action : Action τ α) :
    Action σ α :=
  ⟨fun state =>
    let (answer, after) := action.run (part state)
    (answer, replace after state)⟩

/-- Repeats an action as a policy says. -/
def repeated (policy : RetryPolicy) (action : Action σ α) : Action σ α :=
  ⟨policy.run action.run⟩

@[simp]
theorem run_pure (value : α) (state : σ) :
    (pure value : Action σ α).run state = (.ok value, state) :=
  rfl

@[simp]
theorem run_ofAnswer (answer : Answer α) (state : σ) :
    (ofAnswer answer).run state = (answer, state) :=
  rfl

@[simp]
theorem run_fail (error : DirectoryError) (state : σ) :
    (fail error : Action σ α).run state = (.error error, state) :=
  rfl

theorem run_bind_ok {action : Action σ α} {next : α → Action σ β}
    {state after : σ} {value : α}
    (success : action.run state = (.ok value, after)) :
    (action >>= next).run state = (next value).run after := by
  show (andThen action next).run state = _
  simp [andThen, success]

theorem run_bind_error {action : Action σ α} {next : α → Action σ β}
    {state after : σ} {error : DirectoryError}
    (failure : action.run state = (.error error, after)) :
    (action >>= next).run state = (.error error, after) := by
  show (andThen action next).run state = _
  simp [andThen, failure]

end Action

end CachedDirectory
