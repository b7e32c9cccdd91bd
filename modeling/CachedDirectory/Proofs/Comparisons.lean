import CachedDirectory.Sql.Affinity

/-!
# Comparing cells

Truth values, and comparisons of cells that hold texts. A comparison with a text
is certain exactly if the cell holds that text.
-/

namespace CachedDirectory

namespace Truth

@[simp]
theorem isYes_and (left right : Truth) :
    (left.and right).isYes = (left.isYes && right.isYes) := by
  cases left <;> cases right <;> rfl

@[simp]
theorem isYes_or (left right : Truth) :
    (left.or right).isYes = (left.isYes || right.isYes) := by
  cases left <;> cases right <;> rfl

@[simp]
theorem isYes_yes : yes.isYes = true :=
  rfl

theorem ofBool_ne_unknown (fact : Bool) : ofBool fact ≠ unknown := by
  cases fact <;> decide

theorem ofBool_eq_yes_iff (fact : Bool) : ofBool fact = yes ↔ fact = true := by
  cases fact <;> decide

end Truth

namespace SqlValue

@[simp]
theorem received_text (content : String) :
    (text content).received = text content :=
  rfl

@[simp]
theorem text?_text (content : String) : (text content).text? = some content :=
  rfl

@[simp]
theorem isPresent_text (content : String) :
    (text content).isPresent = .ofBool true :=
  rfl

@[simp]
theorem text_beq_text (left right : String) :
    (text left == text right) = (left == right) := by
  rw [Bool.eq_iff_iff, beq_iff_eq, beq_iff_eq]
  exact text.injEq left right ▸ Iff.rfl

@[simp]
theorem text_equals_text (left right : String) :
    (text left).equals (text right) = .ofBool (left == right) := by
  rw [← text_beq_text]
  rfl

@[simp]
theorem isYes_equals_text (value : SqlValue) (content : String) :
    (value.equals (text content)).isYes = decide (value = text content) := by
  cases value with
  | null => rfl
  | integer _ => rfl
  | blob _ => rfl
  | text other =>
      rw [text_equals_text, Truth.isYes_ofBool, Bool.eq_iff_iff]
      simp

@[simp]
theorem text_le_text (left right : String) :
    (text left).le (text right) = decide (left ≤ right) :=
  rfl

@[simp]
theorem text_exceeds_text (left right : String) :
    (text left).exceeds (text right) = .ofBool (!decide (left ≤ right)) :=
  rfl

end SqlValue

end CachedDirectory
