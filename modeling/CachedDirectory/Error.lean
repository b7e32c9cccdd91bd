import CachedDirectory.Entity.Kind

/-!
# Errors

Every operation fails in one of seven ways. Only a failed access, to the store
or to the authority, may be worth another attempt.
-/

namespace CachedDirectory

/-- Why an operation failed. -/
inductive DirectoryError where
  /-- An attribute that no column of the searched kind answers to. -/
  | unknownColumn (scope : EntityKind) (attr : String)
  /-- A filter that cannot be answered. -/
  | unsupported (reason : String)
  /-- The store or the authority could not be reached or refused the data. -/
  | accessFailure (reason : String)
  | notFound (kind : EntityKind) (id : String)
  /-- A call that the operation does not allow. -/
  | internal (reason : String)
  /-- The authority rejected the credentials. -/
  | security (reason : String)
  /-- The replica waits for a full synchronization. -/
  | resetRequired
deriving DecidableEq, Repr

namespace DirectoryError

/-- The text shown for an error. -/
def message : DirectoryError → String
  | unknownColumn scope attr =>
      "Unknown column '" ++ attr ++ "' for entity type " ++ scope.name
  | unsupported reason => "Unsupported query expression: " ++ reason
  | accessFailure reason => "Directory access failure: " ++ reason
  | notFound kind id => kind.name ++ " '" ++ id ++ "' not found"
  | internal reason => "Internal server error: " ++ reason
  | security reason => "Security problem: " ++ reason
  | resetRequired =>
      "Directory cache must be reset and resynchronized before it can be read"

/-- Whether the same call may succeed when it is repeated. -/
def isRetryable : DirectoryError → Bool
  | accessFailure _ => true
  | _ => false

end DirectoryError

/-- The answer of an operation that may fail. -/
abbrev Answer (α : Type) :=
  Except DirectoryError α

end CachedDirectory
