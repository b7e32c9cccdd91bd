import CachedDirectory.Proofs.FirstFaults
import CachedDirectory.Proofs.SearchPages

/-!
# Complements

A search for a negation finds the rows that the search for its part leaves out,
unless the part is unknown of a row. Only an equality can be unknown: one that
compares a value which the row has with nothing. No filter asks for that; it
takes a converter that writes a value as nothing.
-/

namespace CachedDirectory

namespace Truth

theorem yes_ne_unknown : yes ≠ unknown := by
  decide

theorem unknown_of_and {left right : Truth}
    (equality : left.and right = unknown) :
    left = unknown ∨ right = unknown := by
  cases left <;> cases right <;> simp_all [Truth.and]

theorem unknown_of_or {left right : Truth}
    (equality : left.or right = unknown) :
    left = unknown ∨ right = unknown := by
  cases left <;> cases right <;> simp_all [Truth.or]

theorem not_eq_unknown_iff {truth : Truth} :
    truth.not = unknown ↔ truth = unknown := by
  cases truth <;> simp [Truth.not]

/-- What is guarded by a fact is unknown only if the fact is there. -/
theorem ofBool_and_eq_unknown_iff {fact : Bool} {truth : Truth} :
    (ofBool fact).and truth = unknown ↔
        truth = unknown ∧ ofBool fact = yes := by
  cases fact <;> cases truth <;> simp [ofBool, Truth.and]

theorem isYes_not_iff {truth : Truth} (known : truth ≠ unknown) :
    truth.not.isYes = true ↔ ¬truth.isYes = true := by
  cases truth with
  | yes => decide
  | no => decide
  | unknown => exact absurd rfl known

end Truth

/-! ## Comparing with nothing -/

namespace SqlValue

theorem equals_eq_unknown_iff {left right : SqlValue} :
    left.equals right = .unknown ↔ left = .null ∨ right = .null := by
  cases left <;> cases right <;> simp [equals, Truth.ofBool_ne_unknown]

theorem like_eq_unknown_iff {pattern : String} {value : SqlValue} :
    value.like pattern = .unknown ↔ value = .null := by
  cases value <;> simp [like, Truth.ofBool_ne_unknown]

theorem asText_eq_null_iff {value : SqlValue} :
    value.asText = .null ↔ value = .null := by
  cases value <;> simp [asText]

theorem isPresent_eq_yes_iff {value : SqlValue} :
    value.isPresent = .yes ↔ value ≠ .null := by
  rw [isPresent, Truth.ofBool_eq_yes_iff]
  simp [isNull]

end SqlValue

namespace NumericCell

/-- A number never becomes nothing. -/
theorem ofNumeral_ne_empty (numeral : Number.Numeral) :
    ofNumeral numeral ≠ empty := by
  unfold ofNumeral
  cases numeral.integer?.filter fits with
  | some value => exact fun same => nomatch same
  | none =>
      cases numeral.toBinary with
      | finite value =>
          dsimp only [ofBinary]
          split <;> exact fun same => nomatch same
      | infinite isNegative => exact fun same => nomatch same

theorem ofValue_eq_empty_iff {value : SqlValue} :
    ofValue value = empty ↔ value = .null := by
  cases value with
  | null => simp
  | integer | blob => simp [ofValue, empty]
  | text content =>
      refine ⟨fun same => ?_, fun same => nomatch same⟩
      unfold ofValue at same
      dsimp only at same
      split at same
      · exact absurd same (ofNumeral_ne_empty _)
      · cases same

/-- A flag compared with another cell is unknown only if that cell holds
nothing. -/
theorem ofBool_equals_eq_unknown_iff {flag : Bool} {cell : NumericCell} :
    (ofBool flag).equals cell = .unknown ↔ cell = empty := by
  cases cell with
  | plain value =>
      have held : SqlValue.ofBool flag ≠ .null := fun same => nomatch same
      simp [ofBool, equals, empty, SqlValue.equals_eq_unknown_iff, held]
  | real number =>
      simp [ofBool, SqlValue.ofBool, equals, equalsReal, empty,
        Truth.ofBool_ne_unknown]

end NumericCell

namespace Condition

mutual

/-- The leaves of a condition from left to right. -/
def leaves : Condition → List Condition
  | and parts => leavesAll parts
  | or parts => leavesAll parts
  | not part => leaves part
  | leaf => [leaf]

/-- The leaves of conditions, one condition after the other. -/
def leavesAll : List Condition → List Condition
  | [] => []
  | part :: rest => leaves part ++ leavesAll rest

end

/-- Whether a leaf is an equality that compares a value of the row with
nothing. -/
def ComparesWithNothing (tables : Tables) (row : EntityRow) : Condition → Prop
  | equals column value =>
      value = .null ∧ column.kind ≠ .multiValued ∧
        presentHolds tables row column = .yes
  | _ => False

variable {tables : Tables} {row : EntityRow} {column : Column}

/-! ## When a leaf is unknown -/

theorem someKey_ne_unknown {property : SqlValue → Truth} :
    tables.someKey row column property ≠ .unknown :=
  Truth.ofBool_ne_unknown _

/-- The cells of a record that are compared without a guard are never empty. -/
theorem comparable_ne_null (record : row.IsRecord)
    (sort : column.kind = .discriminator ∨ column.kind = .identifier) :
    row.comparable column ≠ .null := by
  cases column with
  | type | id => cases record <;> exact fun same => nomatch same
  | description | displayName | firstName | lastName | email | active | memberOf
      | members =>
      rcases sort with sort | sort <;> cases sort

/-- The flag of a record is compared with nothing, or there is none. -/
theorem active_equals_eq_unknown_iff (record : row.IsRecord)
    {value : SqlValue} :
    row.active.isPresent.and (row.active.equals (.ofValue value)) = .unknown ↔
      value = .null ∧ row.active.isPresent = .yes := by
  cases record with
  | group group =>
      have absent : NumericCell.empty.isPresent = .ofBool false := rfl
      show NumericCell.empty.isPresent.and _ = _ ↔
        _ ∧ NumericCell.empty.isPresent = _
      rw [absent, Truth.ofBool_and_eq_unknown_iff]
      exact iff_of_false (fun both => nomatch both.2) fun both => nomatch both.2
  | user user =>
      have present :
          (NumericCell.ofBool user.active).isPresent = .ofBool true :=
        rfl
      show (NumericCell.ofBool user.active).isPresent.and
          ((NumericCell.ofBool user.active).equals _) = _ ↔
        _ ∧ (NumericCell.ofBool user.active).isPresent = _
      rw [present, Truth.ofBool_and_eq_unknown_iff,
        NumericCell.ofBool_equals_eq_unknown_iff,
        NumericCell.ofValue_eq_empty_iff]

/-- An equality is unknown of a record exactly if it compares a value of the
record with nothing. -/
theorem equalsHolds_eq_unknown_iff (record : row.IsRecord) {value : SqlValue} :
    equalsHolds tables row column value = .unknown ↔
      (equals column value).ComparesWithNothing tables row := by
  rw [ComparesWithNothing, equalsHolds, presentHolds]
  cases sort : column.kind with
  | discriminator | identifier =>
      have filled : row.comparable column ≠ .null :=
        comparable_ne_null record (by simp [sort])
      simp [SqlValue.equals_eq_unknown_iff, SqlValue.asText_eq_null_iff, filled]
  | text =>
      dsimp only
      rw [SqlValue.isPresent, Truth.ofBool_and_eq_unknown_iff, ←
        SqlValue.isPresent, SqlValue.equals_eq_unknown_iff,
          SqlValue.asText_eq_null_iff, SqlValue.isPresent_eq_yes_iff]
      simp only [ne_eq, reduceCtorEq, not_false_eq_true, true_and]
      constructor
      · rintro ⟨either, held⟩
        exact ⟨either.resolve_left held, held⟩
      · rintro ⟨nothing, held⟩
        exact ⟨Or.inr nothing, held⟩
  | boolean =>
      dsimp only
      rw [active_equals_eq_unknown_iff record]
      simp
  | multiValued => simp [someKey_ne_unknown]

/-- A comparison with a pattern is never unknown in a column that is
searched. -/
theorem likeHolds_ne_unknown (record : row.IsRecord)
    (searchable : Filter.IsSearchable column) (pattern : String) :
    likeHolds tables row column pattern ≠ .unknown := by
  rw [likeHolds]
  rcases searchable with sort | sort | sort <;> rw [sort] <;> dsimp only
  · rw [ne_eq, SqlValue.like_eq_unknown_iff]
    exact comparable_ne_null record (Or.inr sort)
  · rw [SqlValue.isPresent, ne_eq, Truth.ofBool_and_eq_unknown_iff, ←
      SqlValue.isPresent, SqlValue.like_eq_unknown_iff,
        SqlValue.isPresent_eq_yes_iff]
    rintro ⟨nothing, held⟩
    exact held nothing
  · exact someKey_ne_unknown

theorem presentHolds_ne_unknown :
    presentHolds tables row column ≠ .unknown := by
  rw [presentHolds]
  cases column.kind with
  | discriminator | identifier => exact Truth.yes_ne_unknown
  | text => exact Truth.ofBool_ne_unknown _
  | boolean =>
      dsimp only
      cases row.active with
      | plain value => exact Truth.ofBool_ne_unknown _
      | real value => exact Truth.yes_ne_unknown
  | multiValued => exact someKey_ne_unknown

/-! ## From the leaves to the whole -/

mutual

/-- A condition is unknown of a row only if one of its leaves is. -/
theorem exists_unknown_leaf : ∀ (condition : Condition),
    condition.holds tables row = .unknown →
      ∃ leaf ∈ condition.leaves, leaf.holds tables row = .unknown
  | .and parts, unknown => exists_unknown_leaf_of_parts parts (Or.inl unknown)
  | .or parts, unknown => exists_unknown_leaf_of_parts parts (Or.inr unknown)
  | .not part, unknown =>
      exists_unknown_leaf part (Truth.not_eq_unknown_iff.mp unknown)
  | .equals column value, unknown =>
      ⟨.equals column value, List.mem_singleton.mpr rfl, unknown⟩
  | .like column pattern, unknown =>
      ⟨.like column pattern, List.mem_singleton.mpr rfl, unknown⟩
  | .present column, unknown =>
      ⟨.present column, List.mem_singleton.mpr rfl, unknown⟩

/-- The same for the parts of a conjunction or a disjunction. -/
theorem exists_unknown_leaf_of_parts : ∀ (parts : List Condition),
    holdsAll tables row parts = .unknown ∨
      holdsAny tables row parts = .unknown →
      ∃ leaf ∈ leavesAll parts, leaf.holds tables row = .unknown
  | [], unknown => by
      rcases unknown with unknown | unknown <;> cases unknown
  | part :: rest, unknown => by
      have either : part.holds tables row = .unknown ∨
          holdsAll tables row rest = .unknown ∨
              holdsAny tables row rest = .unknown := by
        rcases unknown with unknown | unknown
        · exact (Truth.unknown_of_and unknown).imp_right Or.inl
        · exact (Truth.unknown_of_or unknown).imp_right Or.inr
      rcases either with here | later
      · obtain ⟨leaf, member, leafUnknown⟩ := exists_unknown_leaf part here
        exact ⟨leaf, List.mem_append_left _ member, leafUnknown⟩
      · obtain ⟨leaf, member, leafUnknown⟩ :=
          exists_unknown_leaf_of_parts rest later
        exact ⟨leaf, List.mem_append_right _ member, leafUnknown⟩

end

end Condition

namespace Filter

variable {scope : EntityKind} {converter : Converter}

mutual

/-- The leaves of the condition that a filter becomes are what the leaves of the
filter become. -/
theorem exists_leaf_of_condition : ∀ (filter : Filter) {condition : Condition},
    filter.condition scope converter = .ok condition →
      ∀ stored ∈ condition.leaves,
      ∃ leaf ∈ filter.leaves, leaf.condition scope converter = .ok stored
  | .and parts, condition, translated, stored, member => by
      obtain ⟨conditions, translatedParts, translated⟩ :=
        Answer.bind_eq_ok_iff.mp translated
      cases translated
      exact exists_leaf_of_conditions parts translatedParts stored member
  | .or parts, condition, translated, stored, member => by
      obtain ⟨conditions, translatedParts, translated⟩ :=
        Answer.bind_eq_ok_iff.mp translated
      cases translated
      exact exists_leaf_of_conditions parts translatedParts stored member
  | .not part, condition, translated, stored, member => by
      obtain ⟨negated, translatedPart, translated⟩ :=
        Answer.bind_eq_ok_iff.mp translated
      cases translated
      exact exists_leaf_of_condition part translatedPart stored member
  | .equals attr value, condition, translated, stored, member => by
      have whole := translated
      obtain ⟨column, _, translated⟩ := Answer.bind_eq_ok_iff.mp translated
      obtain ⟨cell, _, translated⟩ := Answer.bind_eq_ok_iff.mp translated
      cases translated
      cases List.mem_singleton.mp member
      exact ⟨_, List.mem_singleton.mpr rfl, whole⟩
  | .substring attr pattern, condition, translated, stored, member => by
      have whole := translated
      obtain ⟨column, _, translated⟩ := Answer.bind_eq_ok_iff.mp translated
      obtain ⟨_, _, translated⟩ := Answer.bind_eq_ok_iff.mp translated
      obtain ⟨folded, _, translated⟩ := Answer.bind_eq_ok_iff.mp translated
      cases translated
      cases List.mem_singleton.mp member
      exact ⟨_, List.mem_singleton.mpr rfl, whole⟩
  | .present attr, condition, translated, stored, member => by
      have whole := translated
      obtain ⟨column, _, translated⟩ := Answer.bind_eq_ok_iff.mp translated
      cases translated
      cases List.mem_singleton.mp member
      exact ⟨_, List.mem_singleton.mpr rfl, whole⟩

/-- The same for the parts of a conjunction or a disjunction. -/
theorem exists_leaf_of_conditions :
    ∀ (filters : List Filter) {parts : List Condition},
    conditions scope converter filters = .ok parts →
      ∀ stored ∈ Condition.leavesAll parts,
      ∃ leaf ∈ leavesAll filters, leaf.condition scope converter = .ok stored
  | [], parts, translated, stored, member => by
      cases translated
      exact absurd member List.not_mem_nil
  | filter :: rest, parts, translated, stored, member => by
      obtain ⟨first, translatedFirst, translated⟩ :=
        Answer.bind_eq_ok_iff.mp translated
      obtain ⟨others, translatedRest, translated⟩ :=
        Answer.bind_eq_ok_iff.mp translated
      cases translated
      rcases List.mem_append.mp member with here | later
      · obtain ⟨leaf, listed, becomes⟩ :=
          exists_leaf_of_condition filter translatedFirst stored here
        exact ⟨leaf, List.mem_append_left _ listed, becomes⟩
      · obtain ⟨leaf, listed, becomes⟩ :=
          exists_leaf_of_conditions rest translatedRest stored later
        exact ⟨leaf, List.mem_append_right _ listed, becomes⟩

end

/-- A leaf of the condition that a filter becomes is the equality of a leaf of
the filter with what the converter writes, a comparison with a pattern in a
column that is searched, or asks for a value. -/
theorem leaf_cases {filter : Filter} {condition : Condition}
    (translated : filter.condition scope converter = .ok condition)
    {stored : Condition} (member : stored ∈ condition.leaves) :
    (∃ attr value column cell,
      .equals attr value ∈ filter.leaves ∧ Means scope attr column ∧
      converter.toStore column value = some cell ∧
        stored = .equals column cell) ∨
    (∃ column pattern, IsSearchable column ∧ stored = .like column pattern) ∨
    ∃ column, stored = .present column := by
  obtain ⟨leaf, listed, becomes⟩ :=
    exists_leaf_of_condition filter translated stored member
  have single := isLeaf_of_mem_leaves filter listed
  cases leaf with
  | equals attr value =>
      obtain ⟨column, resolved, becomes⟩ := Answer.bind_eq_ok_iff.mp becomes
      obtain ⟨cell, written, becomes⟩ := Answer.bind_eq_ok_iff.mp becomes
      cases becomes
      exact Or.inl ⟨attr, value, column, cell, listed,
        resolveColumn_eq_ok_iff.mp resolved,
        storeValue_eq_ok_iff.mp written, rfl⟩
  | substring attr pattern =>
      obtain ⟨column, _, becomes⟩ := Answer.bind_eq_ok_iff.mp becomes
      obtain ⟨_, admitted, becomes⟩ := Answer.bind_eq_ok_iff.mp becomes
      obtain ⟨folded, _, becomes⟩ := Answer.bind_eq_ok_iff.mp becomes
      cases becomes
      exact Or.inr (Or.inl
        ⟨column, _, admitSubstring_eq_ok_iff.mp admitted, rfl⟩)
  | present attr =>
      obtain ⟨column, _, becomes⟩ := Answer.bind_eq_ok_iff.mp becomes
      cases becomes
      exact Or.inr (Or.inr ⟨column, rfl⟩)
  | greaterOrEqual | lessOrEqual | approximate | extensible => cases becomes
  | and | or | not => cases single

theorem storedCondition_eq_ok_iff {filter : Filter} {condition : Condition} :
    filter.storedCondition scope converter = .ok condition ↔
      scope.isPersisted = true ∧
          filter.condition scope converter = .ok condition := by
  unfold storedCondition
  split
  · rename_i persisted
    exact (and_iff_right persisted).symm
  · rename_i other
    exact iff_of_false (fun equality => nomatch equality) fun both =>
      other both.1

/-- What the negation of a filter becomes. -/
theorem storedCondition_not {filter : Filter} {condition : Condition}
    (translated : filter.storedCondition scope converter = .ok condition) :
    filter.not.storedCondition scope converter = .ok condition.not := by
  obtain ⟨persisted, accepted⟩ := storedCondition_eq_ok_iff.mp translated
  refine storedCondition_eq_ok_iff.mpr ⟨persisted, ?_⟩
  rw [Filter.condition, accepted]
  rfl

end Filter

namespace Condition

variable {tables : Tables} {row : EntityRow} {scope : EntityKind}
  {converter : Converter}

/-- A leaf of a translated filter is unknown of a record exactly if it compares
a value of the record with nothing. -/
theorem leaf_eq_unknown_iff (record : row.IsRecord) {filter : Filter}
    {condition : Condition}
    (translated : filter.condition scope converter = .ok condition)
    {leaf : Condition} (member : leaf ∈ condition.leaves) :
    leaf.holds tables row = .unknown ↔ leaf.ComparesWithNothing tables row := by
  rcases Filter.leaf_cases translated member with
    ⟨_, _, column, cell, _, _, _, rfl⟩ | ⟨column, pattern, searchable, rfl⟩
      | ⟨column, rfl⟩
  · exact equalsHolds_eq_unknown_iff record
  · exact iff_of_false (likeHolds_ne_unknown record searchable pattern) id
  · exact iff_of_false presentHolds_ne_unknown id

/-- Of a row of the kind of which a condition is not unknown, either the
condition or its negation is true. -/
theorem mem_matching_not_iff {condition : Condition}
    (selected : row ∈ tables.rowsOfKind (.text scope.name))
    (known : condition.holds tables row ≠ .unknown) :
    row ∈ tables.matching scope condition.not ↔
        row ∉ tables.matching scope condition := by
  rw [Tables.matching, Tables.matching, List.mem_filter, List.mem_filter, holds,
    Truth.isYes_not_iff known, not_and, and_iff_right selected]
  exact ⟨fun no _ => no, fun no => no selected⟩

end Condition

namespace Replica

/-- In every store that calls have led to, a leaf of the condition that a filter
becomes is unknown of a row exactly if it compares a value of the row with
nothing, which it does only with a value that the converter writes as nothing.
Where no leaf does so, the negation of the filter selects a row exactly if the
filter does not. -/
theorem negation_selects_rest {replica : Replica} (reached : Reached replica)
    {scope : EntityKind} {converter : Converter} {filter : Filter}
    {condition : Condition}
    (translated : filter.storedCondition scope converter = .ok condition) :
    filter.not.storedCondition scope converter = .ok condition.not ∧
      (∀ column, .equals column .null ∈ condition.leaves →
        ∃ attr value,
          .equals attr value ∈ filter.leaves ∧ Filter.Means scope attr column ∧
          converter.toStore column value = some .null) ∧
      ∀ row ∈ replica.tables.rowsOfKind (.text scope.name),
        (∀ leaf ∈ condition.leaves,
          leaf.holds replica.tables row = .unknown ↔
            leaf.ComparesWithNothing replica.tables row) ∧
        ((∀ leaf ∈ condition.leaves,
          ¬leaf.ComparesWithNothing replica.tables row) →
          condition.holds replica.tables row ≠ .unknown ∧
            (row ∈ replica.tables.matching scope condition.not ↔
              row ∉ replica.tables.matching scope condition)) := by
  obtain ⟨_, accepted⟩ := Filter.storedCondition_eq_ok_iff.mp translated
  refine ⟨Filter.storedCondition_not translated, ?_, ?_⟩
  · intro column member
    rcases Filter.leaf_cases accepted member with
      ⟨attr, value, _, cell, listed, means, written, same⟩ | ⟨_, _, _, same⟩
        | ⟨_, same⟩
    · cases same
      exact ⟨attr, value, listed, means, written⟩
    · cases same
    · cases same
  · intro row selected
    have record := reached.sound.isRecord row (List.mem_of_mem_filter selected)
    refine ⟨fun leaf member =>
      Condition.leaf_eq_unknown_iff record accepted member, ?_⟩
    intro compared
    have known : condition.holds replica.tables row ≠ .unknown := by
      intro unknown
      obtain ⟨leaf, member, here⟩ := condition.exists_unknown_leaf unknown
      exact compared leaf member
        ((Condition.leaf_eq_unknown_iff record accepted member).mp here)
    exact ⟨known, Condition.mem_matching_not_iff selected known⟩

/-- The standard converter, but for columns whose values are written as nothing,
and for the display name, which is otherwise written as bytes. -/
def voiding (columns : List Column) : Converter :=
  Converter.standard.adjust
    (fun column =>
      if column ∈ columns then some .null else if column =
        .displayName then some .bytes else none)
    fun _ => none

/-- A filter on a column that Ada has no value in, on one whose values are
bytes, and on one that comes from edges. -/
def voidedFilter : Filter :=
  .or [.equals "email" "x", .equals "displayName" "é",
    .equals "memberOf" "staff"]

/-- The condition that the filter becomes. -/
def voidedCondition : Condition :=
  .or
    [.equals .email .null, .equals .displayName (.blob (Text.encodeUtf8 "é")),
      .equals .memberOf .null]

theorem negation_selects_rest_filled :
    voidedFilter.storedCondition .user (voiding [.email, .memberOf]) =
      .ok voidedCondition ∧
      (∀ leaf ∈ voidedCondition.leaves,
        ¬leaf.ComparesWithNothing filled.tables sampleRow) ∧
        sampleRow ∈ filled.tables.matching .user voidedCondition.not := by
  have translated :
      voidedFilter.storedCondition .user (voiding [.email, .memberOf]) =
          .ok voidedCondition := by
    rfl
  have selected :
      sampleRow ∈ filled.tables.rowsOfKind (.text EntityKind.user.name) := by
    decide +kernel
  have compared : ∀ leaf ∈ voidedCondition.leaves,
      ¬leaf.ComparesWithNothing filled.tables sampleRow := by
    intro leaf member
    simp only [voidedCondition, Condition.leaves, Condition.leavesAll,
      List.append_nil, List.singleton_append, List.mem_cons, List.not_mem_nil,
      or_false] at member
    rcases member with rfl | rfl | rfl
    · exact fun ⟨_, _, there⟩ => absurd there (by decide +kernel)
    · exact fun ⟨nothing, _⟩ => nomatch nothing
    · exact fun ⟨_, single, _⟩ => single rfl
  obtain ⟨_, _, rows⟩ := negation_selects_rest reached_filled translated
  obtain ⟨_, complement⟩ := (rows sampleRow selected).2 compared
  exact ⟨translated, compared, complement.mpr (by decide +kernel)⟩

/-- A row that has a display name is found neither by a filter on the display
name nor by its negation if the converter writes display names as nothing. -/
theorem negation_loses_row_compared_with_nothing :
    filled.Reached ∧
      (Filter.equals "displayName" "x").storedCondition .user
        (voiding [.displayName]) =
        .ok (.equals .displayName .null) ∧
      sampleRow ∈ filled.tables.rowsOfKind (.text EntityKind.user.name) ∧
      (Condition.equals .displayName .null).holds filled.tables sampleRow =
        .unknown ∧
      sampleRow ∉ filled.tables.matching .user (.equals .displayName .null) ∧
      sampleRow ∉ filled.tables.matching .user
          (.not (.equals .displayName .null)) :=
  ⟨reached_filled, rfl, by decide +kernel, by decide +kernel,
    by decide +kernel, by decide +kernel⟩

end Replica

end CachedDirectory
