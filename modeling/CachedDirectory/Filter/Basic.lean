import CachedDirectory.Filter.Pattern

/-!
# Filters

A filter is a tree: comparisons of one attribute with a value at the leaves,
combined by conjunction, disjunction and negation. Ordering, approximate and
extensible comparisons can be written but not answered. Two filters are equal if
they are the same tree, so the order of the parts counts.
-/

namespace CachedDirectory

/-- A search filter. -/
inductive Filter where
  | equals (attr value : String)
  | substring (attr : String) (pattern : Pattern)
  /-- The attribute has some value. -/
  | present (attr : String)
  | and (parts : List Filter)
  | or (parts : List Filter)
  | not (part : Filter)
  | greaterOrEqual (attr value : String)
  | lessOrEqual (attr value : String)
  | approximate (attr value : String)
  | extensible (rule attr : Option String) (value : String)
deriving Repr

namespace Filter

mutual

/-- Whether two filters are the same tree. -/
def same : Filter → Filter → Bool
  | equals attr value, equals attr' value' => attr == attr' && value == value'
  | substring attr pattern, substring attr' pattern' =>
      attr == attr' && pattern == pattern'
  | present attr, present attr' => attr == attr'
  | and parts, and parts' => sameAll parts parts'
  | or parts, or parts' => sameAll parts parts'
  | not part, not part' => same part part'
  | greaterOrEqual attr value, greaterOrEqual attr' value' =>
      attr == attr' && value == value'
  | lessOrEqual attr value, lessOrEqual attr' value' =>
      attr == attr' && value == value'
  | approximate attr value, approximate attr' value' =>
      attr == attr' && value == value'
  | extensible rule attr value, extensible rule' attr' value' =>
      rule == rule' && attr == attr' && value == value'
  | _, _ => false

/-- Whether two lists hold the same trees in the same order. -/
def sameAll : List Filter → List Filter → Bool
  | [], [] => true
  | part :: rest, part' :: rest' => same part part' && sameAll rest rest'
  | _, _ => false

end

/-- The attribute has a value that contains the text. -/
def contains (attr value : String) : Filter :=
  substring attr ⟨none, [value], none⟩

/-- The attribute has a value that begins with the text. -/
def startsWith (attr value : String) : Filter :=
  substring attr ⟨some value, [], none⟩

/-- The attribute has a value that ends with the text. -/
def endsWith (attr value : String) : Filter :=
  substring attr ⟨none, [], some value⟩

/-- The filter that accepts every entity. -/
def matchAll : Filter :=
  and []

end Filter

/-- A step of putting a filter together on a stack. -/
inductive FilterStep where
  | push (filter : Filter)
  /-- Joins the topmost filters, in the order in which they were pushed. -/
  | joinAll (count : Nat)
  | joinAny (count : Nat)
  /-- Joins the two topmost filters. -/
  | both
  | either
  /-- Negates the topmost filter. -/
  | negate

namespace FilterStep

/-- The stack after a step, topmost filter first. A step that finds too few
filters takes what is there. -/
def run : FilterStep → List Filter → List Filter
  | push filter, stack => filter :: stack
  | joinAll count, stack => .and (stack.take count).reverse :: stack.drop count
  | joinAny count, stack => .or (stack.take count).reverse :: stack.drop count
  | both, right :: left :: stack => .and [left, right] :: stack
  | either, right :: left :: stack => .or [left, right] :: stack
  | negate, filter :: stack => .not filter :: stack
  | _, stack => stack

end FilterStep

namespace Filter

/-- The filters left on the stack after the steps, bottom first. -/
def assemble (steps : List FilterStep) : List Filter :=
  (steps.foldl (fun stack step => step.run stack) []).reverse

end Filter

end CachedDirectory
