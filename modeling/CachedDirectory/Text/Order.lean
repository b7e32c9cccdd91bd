/-!
# Ordering by a text

Items are ordered by a text that belongs to each of them, by code points. Items
with the same text stay in the order in which they were.
-/

namespace CachedDirectory.Text

/-- Items in the order of a key, which is found once for each. -/
def inOrder {α : Type} (key : α → String) (items : List α) : List α :=
  let keyed := items.map fun item => (key item, item)
  (keyed.mergeSort fun left right => decide (left.1 ≤ right.1)).map (·.2)

end CachedDirectory.Text
