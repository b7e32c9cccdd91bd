import CachedDirectory.Filter.Check

/-!
# Evaluating filters

A filter that was checked is evaluated on an entity by comparing stored forms:
those of the entity's values with that of the wanted value. An entity without a
value matches no comparison.
-/

namespace CachedDirectory

namespace Filter

/-- The stored forms of the values that an entity has in a column. -/
def storedValues (converter : Converter) (entity : Entity) (column : Column) :
    List SqlValue :=
  match entity.value? column with
  | some value => value.values.filterMap (converter.toStore column)
  | none => []

/-- Whether an entity has a value whose stored form is that of the given one. -/
def holdsEqual (converter : Converter) (entity : Entity) (column : Column)
    (value : String) :
    Bool :=
  match converter.toStore column value with
  | some wanted => (storedValues converter entity column).contains wanted
  | none => false

/-- A fragment as it is looked for: its stored form if that is a text, else as
it is written. -/
def storedFragment (converter : Converter) (column : Column)
    (fragment : String) : String :=
  match converter.toStore column fragment with
  | some (.text content) => content
  | _ => fragment

/-- Whether an entity has a value whose stored form is a text that the pattern
accepts. -/
def holdsPattern (converter : Converter) (entity : Entity) (column : Column)
    (pattern : Pattern) : Bool :=
  let sought := pattern.map (storedFragment converter column)
  (storedValues converter entity column).any fun stored =>
    match stored with
    | .text content => sought.accepts content
    | _ => false

mutual

/-- Whether an entity matches a filter that was checked before. -/
def evaluate (converter : Converter) (entity : Entity) : Filter → Bool
  | equals attr value =>
      match Column.ofAttribute? attr with
      | some column => holdsEqual converter entity column value
      | none => false
  | substring attr pattern =>
      match Column.ofAttribute? attr with
      | some column => holdsPattern converter entity column pattern
      | none => false
  | present attr =>
      match Column.ofAttribute? attr with
      | some column => (entity.value? column).isSome
      | none => false
  | and parts => evaluateAll converter entity parts
  | or parts => evaluateAny converter entity parts
  | not part => !evaluate converter entity part
  | greaterOrEqual _ _ | lessOrEqual _ _ | approximate _ _ | extensible _ _ _ =>
      false

/-- Whether an entity matches every filter of a list. -/
def evaluateAll (converter : Converter) (entity : Entity) : List Filter → Bool
  | [] => true
  | part :: rest =>
      evaluate converter entity part && evaluateAll converter entity rest

/-- Whether an entity matches some filter of a list. -/
def evaluateAny (converter : Converter) (entity : Entity) : List Filter → Bool
  | [] => false
  | part :: rest =>
      evaluate converter entity part || evaluateAny converter entity rest

end

/-- Whether an entity matches a filter; an error if the filter does not fit its
kind. -/
def accepts (converter : Converter) (filter : Filter) (entity : Entity) :
    Answer Bool := do
  filter.check entity.kind converter
  return filter.evaluate converter entity

end Filter

end CachedDirectory
