/-!
# Truth values

A comparison with an absent value is neither true nor false, so predicates over
rows have three truth values. A row is selected only if the predicate is true of
it.
-/

namespace CachedDirectory

/-- A truth value of a predicate over rows. -/
inductive Truth where
  | yes
  | no
  | unknown
deriving DecidableEq, Repr

namespace Truth

/-- The truth value of a fact that is known. -/
def ofBool (fact : Bool) : Truth :=
  if fact then yes else no

/-- False as soon as one side is false, unknown if then one side is unknown. -/
def and : Truth → Truth → Truth
  | no, _ | _, no => no
  | yes, yes => yes
  | _, _ => unknown

/-- True as soon as one side is true, unknown if then one side is unknown. -/
def or : Truth → Truth → Truth
  | yes, _ | _, yes => yes
  | no, no => no
  | _, _ => unknown

/-- The opposite of what is known. -/
def not : Truth → Truth
  | yes => no
  | no => yes
  | unknown => unknown

/-- Whether a row with this truth value is selected. -/
def isYes : Truth → Bool
  | yes => true
  | no | unknown => false

@[simp]
theorem isYes_ofBool (fact : Bool) : (ofBool fact).isYes = fact := by
  cases fact <;> rfl

@[simp]
theorem and_ofBool (left right : Bool) :
    (ofBool left).and (ofBool right) = ofBool (left && right) := by
  cases left <;> cases right <;> rfl

@[simp]
theorem or_ofBool (left right : Bool) :
    (ofBool left).or (ofBool right) = ofBool (left || right) := by
  cases left <;> cases right <;> rfl

@[simp]
theorem not_ofBool (fact : Bool) : (ofBool fact).not = ofBool (!fact) := by
  cases fact <;> rfl

end Truth

end CachedDirectory
