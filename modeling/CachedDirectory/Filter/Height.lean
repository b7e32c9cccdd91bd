import CachedDirectory.Filter.Condition

/-!
# Heights of conditions

The store reads the text of a condition as a tree: a cell has height two, a
value has one, and an operator is one higher than the highest of its operands,
of which a conjunction or disjunction of several parts takes two at a time from
the left. Statements whose tree is too high are refused. The conditions on edges
stand in trees of their own, whose height is added to that of the tree they
occur in.
-/

namespace CachedDirectory

namespace Condition

/-- The height of the condition within a condition on edges, which may compare
their keys. -/
def edgesHeight (column : Column) (isCompared : Bool) : Nat :=
  (if column = .memberOf then 4 else 3) + if isCompared then 1 else 0

/-- The height of an equality. -/
def equalsHeight (column : Column) : Nat :=
  match column.kind with
  | .discriminator | .identifier => 3
  | .text | .boolean => 4
  | .multiValued => edgesHeight column true + 1

/-- The height of a comparison with a pattern. -/
def likeHeight (column : Column) : Nat :=
  match column.kind with
  | .discriminator | .identifier | .boolean => 3
  | .text => 4
  | .multiValued => edgesHeight column true + 1

/-- The height of the condition that a column has a value. -/
def presentHeight (column : Column) : Nat :=
  match column.kind with
  | .discriminator | .identifier => 2
  | .text | .boolean => 3
  | .multiValued => edgesHeight column false + 1

/-- The height of joined conditions; that of the constant if there are none. -/
def joinHeights : List Nat → Nat
  | [] => 2
  | first :: rest =>
      rest.foldl (fun reached height => max reached height + 1) first

mutual

/-- The height of a condition. -/
def height : Condition → Nat
  | equals column _ => equalsHeight column
  | like column _ => likeHeight column
  | present column => presentHeight column
  | and parts => joinHeights (heights parts)
  | or parts => joinHeights (heights parts)
  | not part => height part + 1

/-- The heights of conditions. -/
def heights : List Condition → List Nat
  | [] => []
  | part :: rest => height part :: heights rest

end

/-- The height of the condition on edges that a column needs. -/
def innerHeightOf (column : Column) (isCompared : Bool) : Nat :=
  if column.kind = .multiValued then edgesHeight column isCompared else 0

mutual

/-- The greatest height of a condition on edges that occurs in a condition. -/
def innerHeight : Condition → Nat
  | equals column _ => innerHeightOf column true
  | like column _ => innerHeightOf column true
  | present column => innerHeightOf column false
  | and parts => innerHeightAll parts
  | or parts => innerHeightAll parts
  | not part => innerHeight part

/-- The greatest height of a condition on edges that occurs in conditions. -/
def innerHeightAll : List Condition → Nat
  | [] => 0
  | part :: rest => max (innerHeight part) (innerHeightAll rest)

end

end Condition

end CachedDirectory
