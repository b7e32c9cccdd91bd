import CachedDirectory.Error
import CachedDirectory.Sql.Row

/-!
# Outcomes of statements

A statement is run for one of four things: the number of rows it changed, its
first cell, its first row, or all its rows. Asking an outcome for another of the
four is a mistake of the caller.
-/

namespace CachedDirectory

/-- What a caller wants from a statement. -/
inductive OutcomeKind where
  | update
  | scalar
  | row
  | rows
deriving DecidableEq, Repr

namespace OutcomeKind

/-- The outcome kind with this name. -/
def ofName? (text : String) : Option OutcomeKind :=
  match text with
  | "update" => some update
  | "scalar" => some scalar
  | "row" => some row
  | "rows" => some rows
  | _ => none

end OutcomeKind

/-- What a statement gave. -/
inductive Outcome where
  | updated (count : Nat)
  | scalar (value : Option SqlValue)
  | row (row : Option ResultRow)
  | rows (set : ResultSet)
deriving DecidableEq, Repr

namespace Outcome

/-- The diagnostic form of something that may be absent. -/
def diagnosticOption (content : Option String) : String :=
  match content with
  | some shown => "Some(" ++ shown ++ ")"
  | none => "None"

/-- The diagnostic form of an outcome. -/
def diagnostic : Outcome → String
  | updated count => "Updated(" ++ toString count ++ ")"
  | scalar value =>
      "Scalar(" ++ diagnosticOption (value.map SqlValue.diagnostic) ++ ")"
  | row content =>
      "Row(" ++ diagnosticOption (content.map ResultRow.diagnostic) ++ ")"
  | rows set => "Rows(" ++ set.diagnostic ++ ")"

/-- The error of a caller that wanted another outcome. -/
def mismatch (wanted : String) (outcome : Outcome) : DirectoryError :=
  .internal ("expected " ++ wanted ++ " result, got " ++ outcome.diagnostic)

/-- The number of changed rows. -/
def asUpdated : Outcome → Answer Nat
  | updated count => .ok count
  | other => .error (mismatch "update count" other)

/-- The first cell. -/
def asScalar : Outcome → Answer (Option SqlValue)
  | scalar value => .ok value
  | other => .error (mismatch "scalar" other)

/-- The first row. -/
def asRow : Outcome → Answer (Option ResultRow)
  | row content => .ok content
  | other => .error (mismatch "row" other)

/-- All rows. -/
def asRows : Outcome → Answer ResultSet
  | rows set => .ok set
  | other => .error (mismatch "row set" other)

end Outcome

end CachedDirectory
