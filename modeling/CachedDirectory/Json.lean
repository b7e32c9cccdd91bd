/-!
# JSON trees

Entities, filters and settings are exchanged as JSON. This module has the trees
and the rules by which a record is read from one: as an object, whose unknown
fields are ignored, or, where the format of the record admits it, as the array
of its fields in order.
-/

namespace CachedDirectory

/-- A JSON tree. -/
inductive Json where
  | null
  | bool (value : Bool)
  | integer (value : Int)
  /-- A number that is not an integer: `digits / 10 ^ places`. -/
  | fraction (digits : Int) (places : Nat)
  | string (value : String)
  | array (items : List Json)
  | object (fields : List (String × Json))
deriving Repr, Inhabited

/-- When a field of a record may be missing. -/
inductive Presence where
  | required
  /-- The field may be missing in an object but not in an array. -/
  | optional
  /-- The field may be missing in both forms. -/
  | defaulted
deriving DecidableEq, Repr

namespace Json

/-- The text of a JSON string. -/
def string? : Json → Option String
  | string value => some value
  | _ => none

/-- A name out of a closed set: a string, or an object with that field alone,
which holds null. -/
def name? : Json → Option String
  | string value => some value
  | object [(value, null)] => some value
  | _ => none

/-- The truth value of a JSON literal. -/
def bool? : Json → Option Bool
  | bool value => some value
  | _ => none

/-- The items of a JSON array. -/
def array? : Json → Option (List Json)
  | array items => some items
  | _ => none

/-- A text or null. -/
def nullableString? : Json → Option (Option String)
  | null => some none
  | string value => some (some value)
  | _ => none

/-- The texts of an array that holds nothing else. -/
def strings? (json : Json) : Option (List String) :=
  json.array?.bind fun items => items.mapM string?

/-- A natural number up to a bound. -/
def natural? (bound : Nat) : Json → Option Nat
  | integer value =>
      if 0 ≤ value ∧ value ≤ bound then some value.toNat else none
  | _ => none

/-- A text, or null. -/
def ofOption : Option String → Json
  | some value => string value
  | none => null

/-- An array of texts. -/
def ofStrings (values : List String) : Json :=
  array (values.map string)

/-- A number. -/
def ofNat (value : Nat) : Json :=
  integer value

/-- The fields of a record in an object, by name. -/
def fieldsOfObject (entries : List (String × Json)) :
    List (String × Presence) → Option (List (Option Json))
  | [] => some []
  | (name, presence) :: rest =>
      match entries.lookup name, presence with
      | none, .required => none
      | found, _ => (fieldsOfObject entries rest).map (found :: ·)

/-- The fields of a record in an array, by position. -/
def fieldsOfArray :
    List Json → List (String × Presence) → Option (List (Option Json))
  | [], [] => some []
  | _ :: _, [] => none
  | [], (_, presence) :: rest =>
      if presence = .defaulted then (fieldsOfArray [] rest).map (none :: ·) else
        none
  | item :: items, _ :: rest => (fieldsOfArray items rest).map (some item :: ·)

/-- The fields of a record that is an object, in their order; a field that may
be missing and is missing is none. -/
def objectFields? (layout : List (String × Presence)) :
    Json → Option (List (Option Json))
  | object entries => fieldsOfObject entries layout
  | _ => none

/-- The fields of a record that is an object or an array. -/
def fields? (layout : List (String × Presence)) :
    Json → Option (List (Option Json))
  | array items => fieldsOfArray items layout
  | json => json.objectFields? layout

/-- A field that was required. -/
def require {alpha : Type} (read : Json → Option alpha) (field : Option Json) :
    Option alpha :=
  field.bind read

/-- A field that has a default. -/
def withDefault {alpha : Type} (read : Json → Option alpha) (default : alpha)
    (field : Option Json) : Option alpha :=
  match field with
  | some json => read json
  | none => some default

end Json

end CachedDirectory
