import CachedDirectory.Converter
import CachedDirectory.Error
import CachedDirectory.Filter.Basic

/-!
# Checking filters

A filter fits a kind of entity and a converter if every attribute is a column of
the kind, every value has a stored form, and nothing in it is beyond what can be
answered. The first fault from the left is reported, also where another part
would decide the result.
-/

namespace CachedDirectory

namespace Filter

/-- The column that an attribute means for a kind of entity. -/
def resolveColumn (scope : EntityKind) (attr : String) : Answer Column :=
  match Column.ofAttribute? attr with
  | some column =>
      if scope.hasColumn column then .ok column else
        .error (.unknownColumn scope attr)
  | none => .error (.unknownColumn scope attr)

/-- The stored form of a value that a filter compares with. -/
def storeValue (converter : Converter) (column : Column) (value : String) :
    Answer SqlValue :=
  match converter.toStore column value with
  | some stored => .ok stored
  | none =>
      .error (.unsupported
        ("value '" ++ value ++ "' cannot be compared with " ++ column.name))

/-- The stored form of a fragment, which must be a text. -/
def storeText (converter : Converter) (column : Column) (fragment : String) :
    Answer String :=
  match storeValue converter column fragment with
  | .ok (.text content) => .ok content
  | .ok _ =>
      .error (.unsupported
        ("substring match on non-text column " ++ column.name))
  | .error error => .error error

/-- Refuses substring filters on columns that hold no text. -/
def admitSubstring (column : Column) : Answer PUnit :=
  match column.kind with
  | .identifier | .text | .multiValued => .ok ⟨⟩
  | .discriminator | .boolean =>
      .error (.unsupported ("substring match on " ++ column.name))

/-- The fault of an ordering comparison. -/
def orderingFault (attr : String) : DirectoryError :=
  .unsupported ("ordering match on '" ++ attr ++ "'")

/-- The fault of an approximate comparison. -/
def approximateFault (attr : String) : DirectoryError :=
  .unsupported ("approximate match on '" ++ attr ++ "'")

/-- The fault of an extensible comparison. -/
def extensibleFault (rule : Option String) : DirectoryError :=
  .unsupported ("extensible match (rule " ++ rule.getD "none" ++ ")")

/-- Finds the stored form of every fragment. -/
def checkFragments (converter : Converter) (column : Column) :
    List String → Answer PUnit
  | [] => .ok ⟨⟩
  | fragment :: rest => do
      let _ ← storeText converter column fragment
      checkFragments converter column rest

mutual

/-- Whether a filter can be answered for a kind of entity; the first fault if it
cannot. -/
def check (scope : EntityKind) (converter : Converter) : Filter → Answer PUnit
  | equals attr value => do
      let column ← resolveColumn scope attr
      let _ ← storeValue converter column value
      return ⟨⟩
  | substring attr pattern => do
      let column ← resolveColumn scope attr
      admitSubstring column
      checkFragments converter column pattern.fragments
  | present attr => do
      let _ ← resolveColumn scope attr
      return ⟨⟩
  | and parts => checkAll scope converter parts
  | or parts => checkAll scope converter parts
  | not part => check scope converter part
  | greaterOrEqual attr _ => .error (orderingFault attr)
  | lessOrEqual attr _ => .error (orderingFault attr)
  | approximate attr _ => .error (approximateFault attr)
  | extensible rule _ _ => .error (extensibleFault rule)

/-- Whether all filters of a list can be answered; the first fault from the left
if not. -/
def checkAll (scope : EntityKind) (converter : Converter) :
    List Filter → Answer PUnit
  | [] => .ok ⟨⟩
  | part :: rest => do
      check scope converter part
      checkAll scope converter rest

end

end Filter

end CachedDirectory
