import CachedDirectory.Filter.Basic
import CachedDirectory.Json

/-!
# Filters as JSON

A filter is an object with one field, named for the sort of the filter. A
conjunction and a disjunction hold an array of filters, a negation holds a
filter, and a comparison holds a record, which is an object.
-/

namespace CachedDirectory

open Json

namespace Filter

/-- The record of a comparison with a value. -/
def comparisonJson (tag attr value : String) : Json :=
  object [(tag, object [("attribute", string attr), ("value", string value)])]

mutual

/-- A filter as JSON. -/
def toJson : Filter → Json
  | equals attr value => comparisonJson "equals" attr value
  | substring attr pattern =>
      object
        [
          ("substring",
            object
              [
                ("attribute", string attr),
                  ("initial", ofOption pattern.initial),
                ("any", ofStrings pattern.middle),
                  ("final", ofOption pattern.final)
              ])
        ]
  | present attr => object [("present", object [("attribute", string attr)])]
  | and parts => object [("and", array (toJsonAll parts))]
  | or parts => object [("or", array (toJsonAll parts))]
  | not part => object [("not", toJson part)]
  | greaterOrEqual attr value => comparisonJson "greater_or_equal" attr value
  | lessOrEqual attr value => comparisonJson "less_or_equal" attr value
  | approximate attr value => comparisonJson "approximate" attr value
  | extensible rule attr value =>
      object
        [
          ("extensible",
            object
              [
                ("rule", ofOption rule), ("attribute", ofOption attr),
                  ("value", string value)
              ])
        ]

/-- Filters as JSON. -/
def toJsonAll : List Filter → List Json
  | [] => []
  | part :: rest => toJson part :: toJsonAll rest

end

/-- The attribute and the value of a comparison. -/
def comparisonOfJson? (make : String → String → Filter) (json : Json) :
    Option Filter :=
  match json.objectFields? [("attribute", .required), ("value", .required)] with
  | some [attr, value] => do
      let attr ← require string? attr
      let value ← require string? value
      return make attr value
  | _ => none

/-- The record of a substring filter. -/
def substringOfJson? (json : Json) : Option Filter :=
  match json.objectFields?
      [
        ("attribute", .required), ("initial", .optional), ("any", .defaulted),
        ("final", .optional)
      ] with
  | some [attr, initial, middle, final] => do
      let attr ← require string? attr
      let initial ← withDefault nullableString? none initial
      let middle ← withDefault strings? [] middle
      let final ← withDefault nullableString? none final
      return substring attr ⟨initial, middle, final⟩
  | _ => none

/-- The record of a presence filter. -/
def presentOfJson? (json : Json) : Option Filter :=
  match json.objectFields? [("attribute", .required)] with
  | some [attr] => (require string? attr).map present
  | _ => none

/-- The record of an extensible comparison. -/
def extensibleOfJson? (json : Json) : Option Filter :=
  match json.objectFields?
      [("rule", .optional), ("attribute", .optional), ("value", .required)] with
  | some [rule, attr, value] => do
      let rule ← withDefault nullableString? none rule
      let attr ← withDefault nullableString? none attr
      let value ← require string? value
      return extensible rule attr value
  | _ => none

/-- The comparison that a field of this name holds. -/
def leafOfJson? (tag : String) (record : Json) : Option Filter :=
  match tag with
  | "equals" => comparisonOfJson? equals record
  | "substring" => substringOfJson? record
  | "present" => presentOfJson? record
  | "greater_or_equal" => comparisonOfJson? greaterOrEqual record
  | "less_or_equal" => comparisonOfJson? lessOrEqual record
  | "approximate" => comparisonOfJson? approximate record
  | "extensible" => extensibleOfJson? record
  | _ => none

mutual

/-- The filter that JSON writes. -/
def ofJson? : Json → Option Filter
  | .object [(tag, record)] =>
      if tag = "not" then
        (ofJson? record).map not
      else
        match tag, record with
        | "and", .array items => (ofJsonAll? items).map and
        | "or", .array items => (ofJsonAll? items).map or
        | _, _ => leafOfJson? tag record
  | _ => none

/-- The filters that JSON trees write. -/
def ofJsonAll? : List Json → Option (List Filter)
  | [] => some []
  | item :: rest => do
      let part ← ofJson? item
      let parts ← ofJsonAll? rest
      return part :: parts

end

end Filter

namespace FilterStep

/-- The step of this name with these fields. -/
def ofStep? (step : String) (fields : List (String × Json)) :
    Option FilterStep :=
  let compare (make : String → String → Filter) : Option FilterStep := do
    let attr ← require string? (fields.lookup "attribute")
    let value ← require string? (fields.lookup "value")
    return push (make attr value)
  let count := require (natural? 4294967295) (fields.lookup "count")
  match step with
  | "eq" => compare Filter.equals
  | "contains" => compare Filter.contains
  | "starts_with" => compare Filter.startsWith
  | "ends_with" => compare Filter.endsWith
  | "present" =>
      (require string? (fields.lookup "attribute")).map fun attr =>
        push (.present attr)
  | "match_all" => some (push .matchAll)
  | "all" => count.map joinAll
  | "any_of" => count.map joinAny
  | "and" => some both
  | "or" => some either
  | "negate" => some negate
  | _ => none

end FilterStep

end CachedDirectory
