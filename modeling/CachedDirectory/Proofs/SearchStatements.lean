import CachedDirectory.Proofs.Complements
import CachedDirectory.Proofs.ConditionTexts
import CachedDirectory.Replica.Feed

/-!
# Statements of searches

A page of a search is read by a statement of its own, whose text is put together
from the text of a condition. That statement can always be compiled, and each
placeholder receives the value that was meant for it: the values of a filter are
those of its leaves from left to right. The text itself shows which columns a
filter asks about and how its leaves are combined, and nothing else.
-/

namespace CachedDirectory

namespace Filter

variable {scope : EntityKind} {converter : Converter} {column : Column}

/-- The values that a leaf of a filter on entities of a kind binds. -/
inductive Binds (scope : EntityKind) (converter : Converter) :
    Filter → List SqlValue → Prop
  | equals (attr value : String) (column : Column) (stored : SqlValue)
      (means : Means scope attr column)
        (writes : converter.toStore column value = some stored) :
      Binds scope converter (.equals attr value) [stored]
  /-- The fragments of a pattern are written one by one, and the pattern is
  bound as one text. -/
  | substring (attr : String) (pattern : Pattern) (column : Column)
      (write : String → String)
      (means : Means scope attr column)
      (writes : ∀ fragment ∈ pattern.fragments,
        converter.toStore column fragment = some (.text (write fragment))) :
      Binds scope converter (.substring attr pattern)
        [.text (pattern.map write).likeText]
  | present (attr : String) (column : Column)
      (means : Means scope attr column) :
      Binds scope converter (.present attr) []

/-! ## The values of a condition -/

theorem storeText_eq_ok_iff {fragment content : String} :
    storeText converter column fragment = .ok content ↔
      converter.toStore column fragment = some (.text content) := by
  unfold storeText storeValue
  cases converter.toStore column fragment with
  | none => simp
  | some stored => cases stored <;> simp

/-- The text that a converter writes for a fragment, if it writes one. -/
def writtenText (converter : Converter) (column : Column) (fragment : String) :
    String :=
  ((converter.toStore column fragment).bind SqlValue.text?).getD ""

theorem toStore_of_storeText {fragment content : String}
    (stored : storeText converter column fragment = .ok content) :
    content = writtenText converter column fragment ∧
      converter.toStore column fragment =
        some (.text (writtenText converter column fragment)) := by
  have writes := storeText_eq_ok_iff.mp stored
  have same : writtenText converter column fragment = content := by
    rw [writtenText, writes]
    rfl
  rw [same]
  exact ⟨rfl, writes⟩

theorem storeEdge_eq_ok {edge stored : Option String}
    (found : storeEdge converter column edge = .ok stored) :
    stored = edge.map (writtenText converter column) ∧
      ∀ fragment ∈ edge.toList,
        converter.toStore column fragment =
          some (.text (writtenText converter column fragment)) := by
  cases edge with
  | none =>
      cases found
      simp
  | some fragment =>
      obtain ⟨content, text, equality⟩ := Answer.bind_eq_ok_iff.mp found
      cases equality
      obtain ⟨rfl, writes⟩ := toStore_of_storeText text
      simp [writes]

theorem storeMiddle_eq_ok {middle stored : List String}
    (found : storeMiddle converter column middle = .ok stored) :
    stored = middle.map (writtenText converter column) ∧
      ∀ fragment ∈ middle,
        converter.toStore column fragment =
          some (.text (writtenText converter column fragment)) := by
  induction middle generalizing stored with
  | nil =>
      cases found
      simp
  | cons fragment rest inductionHypothesis =>
      obtain ⟨content, text, found⟩ := Answer.bind_eq_ok_iff.mp found
      obtain ⟨contents, later, equality⟩ := Answer.bind_eq_ok_iff.mp found
      cases equality
      obtain ⟨rfl, writes⟩ := toStore_of_storeText text
      obtain ⟨rfl, writesRest⟩ := inductionHypothesis later
      simp only [List.map_cons, List.mem_cons, forall_eq_or_imp, true_and]
      exact ⟨writes, writesRest⟩

theorem storePattern_eq_ok {pattern stored : Pattern}
    (found : storePattern converter column pattern = .ok stored) :
    stored = pattern.map (writtenText converter column) ∧
      ∀ fragment ∈ pattern.fragments,
        converter.toStore column fragment =
          some (.text (writtenText converter column fragment)) := by
  obtain ⟨initial, first, found⟩ := Answer.bind_eq_ok_iff.mp found
  obtain ⟨middle, between, found⟩ := Answer.bind_eq_ok_iff.mp found
  obtain ⟨final, last, equality⟩ := Answer.bind_eq_ok_iff.mp found
  cases equality
  obtain ⟨rfl, writesInitial⟩ := storeEdge_eq_ok first
  obtain ⟨rfl, writesMiddle⟩ := storeMiddle_eq_ok between
  obtain ⟨rfl, writesFinal⟩ := storeEdge_eq_ok last
  refine ⟨rfl, ?_⟩
  intro fragment member
  simp only [Pattern.fragments, List.mem_append] at member
  rcases member with (edge | inside) | edge
  · exact writesInitial fragment edge
  · exact writesMiddle fragment inside
  · exact writesFinal fragment edge

/-! ## What filters become -/

section

variable {attr value : String} {pattern : Pattern} {part : Filter}
  {parts : List Filter}
  {condition : Condition} {stored : List Condition}

theorem condition_equals_eq_ok_iff :
    (equals attr value).condition scope converter = .ok condition ↔
      ∃ column cell,
        Means scope attr column ∧ converter.toStore column value = some cell ∧
        condition = .equals column cell := by
  simp only [Filter.condition, Answer.bind_eq_ok_iff, resolveColumn_eq_ok_iff,
    storeValue_eq_ok_iff]
  constructor
  · rintro ⟨column, means, cell, writes, equality⟩
    cases equality
    exact ⟨column, cell, means, writes, rfl⟩
  · rintro ⟨column, cell, means, writes, rfl⟩
    exact ⟨column, means, cell, writes, rfl⟩

theorem condition_substring_eq_ok
    (translated :
      (substring attr pattern).condition scope converter = .ok condition) :
    ∃ column folded, Means scope attr column ∧
      storePattern converter column pattern = .ok folded ∧
        condition = .like column folded.likeText := by
  simp only [Filter.condition, Answer.bind_eq_ok_iff,
    resolveColumn_eq_ok_iff] at translated
  obtain ⟨column, means, _, _, folded, writes, equality⟩ := translated
  cases equality
  exact ⟨column, folded, means, writes, rfl⟩

theorem condition_present_eq_ok_iff :
    (present attr).condition scope converter = .ok condition ↔
      ∃ column, Means scope attr column ∧ condition = .present column := by
  simp only [Filter.condition, Answer.bind_eq_ok_iff, resolveColumn_eq_ok_iff]
  constructor
  · rintro ⟨column, means, equality⟩
    cases equality
    exact ⟨column, means, rfl⟩
  · rintro ⟨column, means, rfl⟩
    exact ⟨column, means, rfl⟩

theorem bind_ok_eq_ok_iff {α β : Type} {answer : Answer α} {wrap : α → β}
    {value : β} :
    (answer >>= fun given => .ok (wrap given)) = .ok value ↔
      ∃ given, answer = .ok given ∧ value = wrap given := by
  rw [Answer.bind_eq_ok_iff]
  simp [eq_comm]

theorem condition_and_eq_ok_iff :
    (and parts).condition scope converter = .ok condition ↔
      ∃ stored,
          conditions scope converter parts = .ok stored ∧
              condition = .and stored := by
  rw [Filter.condition]
  exact bind_ok_eq_ok_iff

theorem condition_or_eq_ok_iff :
    (or parts).condition scope converter = .ok condition ↔
      ∃ stored,
          conditions scope converter parts = .ok stored ∧
              condition = .or stored := by
  rw [Filter.condition]
  exact bind_ok_eq_ok_iff

theorem condition_not_eq_ok_iff :
    (not part).condition scope converter = .ok condition ↔
      ∃ stored,
          part.condition scope converter = .ok stored ∧
              condition = .not stored := by
  rw [Filter.condition]
  exact bind_ok_eq_ok_iff

theorem conditions_cons_eq_ok_iff :
    conditions scope converter (part :: parts) = .ok stored ↔
      ∃ first rest, part.condition scope converter = .ok first ∧
        conditions scope converter parts = .ok rest ∧
            stored = first :: rest := by
  simp only [conditions, Answer.bind_eq_ok_iff]
  constructor
  · rintro ⟨first, here, rest, later, equality⟩
    cases equality
    exact ⟨first, rest, here, later, rfl⟩
  · rintro ⟨first, rest, here, later, rfl⟩
    exact ⟨first, here, rest, later, rfl⟩

end

/-! ## The values of a condition -/

mutual

/-- The values of a condition are what the leaves of its filter bind, from left
to right. -/
theorem exists_bound : ∀ (filter : Filter) {condition : Condition},
    filter.condition scope converter = .ok condition →
      ∃ bound, List.Forall₂ (Binds scope converter) filter.leaves bound ∧
        condition.values = bound.flatten
  | .equals attr value, _, translated => by
      obtain ⟨column, cell, means, writes, rfl⟩ :=
        condition_equals_eq_ok_iff.mp translated
      have binds := Binds.equals attr value column cell means writes
      exact ⟨[[cell]], .cons binds .nil, rfl⟩
  | .substring attr pattern, _, translated => by
      obtain ⟨column, folded, means, written, rfl⟩ :=
        condition_substring_eq_ok translated
      obtain ⟨rfl, writes⟩ := storePattern_eq_ok written
      have binds := Binds.substring attr pattern column _ means writes
      exact ⟨[_], .cons binds .nil, rfl⟩
  | .present attr, _, translated => by
      obtain ⟨column, means, rfl⟩ := condition_present_eq_ok_iff.mp translated
      have binds : Binds scope converter (.present attr) [] :=
        .present attr column means
      exact ⟨[[]], .cons binds .nil, rfl⟩
  | .and parts, _, translated => by
      obtain ⟨stored, translatedParts, rfl⟩ :=
        condition_and_eq_ok_iff.mp translated
      exact exists_bound_of_parts parts translatedParts
  | .or parts, _, translated => by
      obtain ⟨stored, translatedParts, rfl⟩ :=
        condition_or_eq_ok_iff.mp translated
      exact exists_bound_of_parts parts translatedParts
  | .not part, _, translated => by
      obtain ⟨stored, translatedPart, rfl⟩ :=
        condition_not_eq_ok_iff.mp translated
      have bound := exists_bound part translatedPart
      exact bound

theorem exists_bound_of_parts :
    ∀ (filters : List Filter) {parts : List Condition},
    conditions scope converter filters = .ok parts →
      ∃ bound, List.Forall₂ (Binds scope converter) (leavesAll filters) bound ∧
        Condition.valuesAll parts = bound.flatten
  | [], _, translated => by
      cases translated
      exact ⟨[], .nil, rfl⟩
  | filter :: rest, _, translated => by
      obtain ⟨first, others, here, later, rfl⟩ :=
        conditions_cons_eq_ok_iff.mp translated
      obtain ⟨bound, binds, values⟩ := exists_bound filter here
      obtain ⟨boundLater, bindsLater, valuesLater⟩ :=
        exists_bound_of_parts rest later
      refine ⟨bound ++ boundLater, List.rel_append binds bindsLater, ?_⟩
      rw [Condition.valuesAll, values, valuesLater, List.flatten_append]

end

/-! ## What a text shows -/

/-- Two filters that are combined alike from leaves on the same columns. Their
values, the fragments of their patterns and the spelling of their attributes may
differ. -/
inductive Alike : Filter → Filter → Prop
  | equals (attr other value changed : String)
      (same : Column.ofAttribute? attr = Column.ofAttribute? other) :
      Alike (.equals attr value) (.equals other changed)
  | substring (attr other : String) (pattern changed : Pattern)
      (same : Column.ofAttribute? attr = Column.ofAttribute? other) :
      Alike (.substring attr pattern) (.substring other changed)
  | present (attr other : String)
      (same : Column.ofAttribute? attr = Column.ofAttribute? other) :
      Alike (.present attr) (.present other)
  | and (parts others : List Filter) (each : List.Forall₂ Alike parts others) :
      Alike (.and parts) (.and others)
  | or (parts others : List Filter) (each : List.Forall₂ Alike parts others) :
      Alike (.or parts) (.or others)
  | not (part other : Filter) (negated : Alike part other) :
      Alike (.not part) (.not other)
  | greaterOrEqual (attr other value changed : String)
      (same : Column.ofAttribute? attr = Column.ofAttribute? other) :
      Alike (.greaterOrEqual attr value) (.greaterOrEqual other changed)
  | lessOrEqual (attr other value changed : String)
      (same : Column.ofAttribute? attr = Column.ofAttribute? other) :
      Alike (.lessOrEqual attr value) (.lessOrEqual other changed)
  | approximate (attr other value changed : String)
      (same : Column.ofAttribute? attr = Column.ofAttribute? other) :
      Alike (.approximate attr value) (.approximate other changed)
  | extensible (rule attr other : Option String) (value changed : String)
      (same : attr.bind Column.ofAttribute? = other.bind Column.ofAttribute?) :
      Alike (.extensible rule attr value) (.extensible rule other changed)

theorem Means.column_eq {attr other : String} {left right : Column}
    (means : Means scope attr left) (meansOther : Means scope other right)
    (same : Column.ofAttribute? attr = Column.ofAttribute? other) :
    left = right := by
  have found := means.1
  rw [same, meansOther.1] at found
  exact (Option.some.inj found).symm

mutual

theorem Alike.text_eq :
    ∀ (left : Filter) {right : Filter} {condition other : Condition},
    left.Alike right → left.condition scope converter = .ok condition →
      right.condition scope converter = .ok other → condition.text = other.text
  | .equals _ _, _, _, _, alike, translated, translatedOther => by
      cases alike with
      | equals _ _ _ _ same =>
          obtain ⟨_, _, means, _, rfl⟩ :=
            condition_equals_eq_ok_iff.mp translated
          obtain ⟨_, _, meansOther, _, rfl⟩ :=
            condition_equals_eq_ok_iff.mp translatedOther
          exact congrArg Condition.equalsText (means.column_eq meansOther same)
  | .substring _ _, _, _, _, alike, translated, translatedOther => by
      cases alike with
      | substring _ _ _ _ same =>
          obtain ⟨_, _, means, _, rfl⟩ := condition_substring_eq_ok translated
          obtain ⟨_, _, meansOther, _, rfl⟩ :=
            condition_substring_eq_ok translatedOther
          exact congrArg Condition.likeText (means.column_eq meansOther same)
  | .present _, _, _, _, alike, translated, translatedOther => by
      cases alike with
      | present _ _ same =>
          obtain ⟨_, means, rfl⟩ := condition_present_eq_ok_iff.mp translated
          obtain ⟨_, meansOther, rfl⟩ :=
            condition_present_eq_ok_iff.mp translatedOther
          exact congrArg Condition.presentText (means.column_eq meansOther same)
  | .and parts, _, _, _, alike, translated, translatedOther => by
      cases alike with
      | and _ others each =>
          obtain ⟨_, translatedParts, rfl⟩ :=
            condition_and_eq_ok_iff.mp translated
          obtain ⟨_, translatedOthers, rfl⟩ :=
            condition_and_eq_ok_iff.mp translatedOther
          rw [Condition.text, Condition.text,
            Alike.texts_eq parts each translatedParts translatedOthers]
  | .or parts, _, _, _, alike, translated, translatedOther => by
      cases alike with
      | or _ others each =>
          obtain ⟨_, translatedParts, rfl⟩ :=
            condition_or_eq_ok_iff.mp translated
          obtain ⟨_, translatedOthers, rfl⟩ :=
            condition_or_eq_ok_iff.mp translatedOther
          rw [Condition.text, Condition.text,
            Alike.texts_eq parts each translatedParts translatedOthers]
  | .not part, _, _, _, alike, translated, translatedOther => by
      cases alike with
      | not _ other negated =>
          obtain ⟨_, translatedPart, rfl⟩ :=
            condition_not_eq_ok_iff.mp translated
          obtain ⟨_, translatedNegated, rfl⟩ :=
            condition_not_eq_ok_iff.mp translatedOther
          rw [Condition.text, Condition.text,
            Alike.text_eq part negated translatedPart translatedNegated]

theorem Alike.texts_eq : ∀ (lefts : List Filter) {rights : List Filter}
    {parts others : List Condition}, List.Forall₂ Alike lefts rights →
      conditions scope converter lefts = .ok parts →
        conditions scope converter rights = .ok others →
          Condition.texts parts = Condition.texts others
  | [], _, _, _, each, translated, translatedOthers => by
      cases each
      cases translated
      cases translatedOthers
      rfl
  | left :: lefts, _, _, _, each, translated, translatedOthers => by
      cases each with
      | cons first rest =>
          obtain ⟨_, _, here, later, rfl⟩ :=
            conditions_cons_eq_ok_iff.mp translated
          obtain ⟨_, _, hereOther, laterOther, rfl⟩ :=
            conditions_cons_eq_ok_iff.mp translatedOthers
          rw [Condition.texts, Condition.texts,
            Alike.text_eq left first here hereOther,
            Alike.texts_eq lefts rest later laterOther]

end

end Filter

namespace SearchPage

open CachedDirectory.Filter Piece

variable {scope : EntityKind} {converter : Converter}

/-- The page that is read after a row, or the first page. -/
def following (scope : EntityKind) (condition : Condition)
    (last : Option ResultRow) (window : Window) : SearchPage :=
  ⟨scope, condition, last.bind fun row => row.text? "id_key", window⟩

theorem page_searchSource (condition : Condition) (last : Option ResultRow)
    (window : Window) (tables : Tables) :
    (searchSource converter scope condition).page last window tables =
      (following scope condition last window).rows tables :=
  rfl

/-- What stands before the condition in the statement of a page. -/
def opening (dialect : Dialect) : String :=
  Clause.entityProjection dialect ++ " WHERE e.entity_type = ? AND ("

/-- What stands behind the condition. -/
def closing (after : Option String) : String :=
  ")" ++ (if after.isSome then " AND e.id_key > ?" else "") ++
    " ORDER BY e.id_key LIMIT ? OFFSET ?"

theorem takes_groupConcat (dialect : Dialect) :
    Takes (dialect.groupConcat "g.id") 0 ∧
        Takes (dialect.groupConcat "x.id") 0 := by
  cases dialect <;> decide +kernel

/-- The literals of the projection are closed one by one, as no stretch of it
ends within one. -/
theorem takes_entityProjection (dialect : Dialect) :
    Takes (Clause.entityProjection dialect) 0 := by
  obtain ⟨groups, members⟩ := takes_groupConcat dialect
  unfold Clause.entityProjection
  repeat' apply Takes.append_none
  all_goals first | exact groups | exact members | decide +kernel

theorem takes_opening (dialect : Dialect) : Takes (opening dialect) 1 := by
  have selects : Takes " WHERE e.entity_type = ? AND (" 1 := by decide +kernel
  exact (takes_entityProjection dialect).append selects

theorem takes_closing (after : Option String) :
    Takes (closing after) (after.toList.length + 2) := by
  have closes : Takes ")" 0 := by decide +kernel
  have onward :
      Takes (if after.isSome then " AND e.id_key > ?" else "")
          after.toList.length := by
    cases after with
    | none => decide +kernel
    | some key =>
        have continues : Takes " AND e.id_key > ?" 1 := by decide +kernel
        exact continues
  have bounds : Takes " ORDER BY e.id_key LIMIT ? OFFSET ?" 2 := by
    decide +kernel
  simpa [closing] using (closes.append onward).append bounds

/-- The values of the statement of a page, in the order of their places. -/
def parameters (page : SearchPage) : List SqlValue :=
  .text page.scope.name ::
    (page.condition.values ++ page.after.toList.map .text ++
      [.ofNat page.window.limit, .ofNat page.window.offset])

theorem statement_eq (page : SearchPage) (dialect : Dialect) :
    page.statement dialect =
      Statement.bindAll
        ⟨opening dialect ++ page.condition.text ++ closing page.after, [], []⟩
            page.parameters := by
  simp [statement, Statement.bindAll, opening, closing, parameters,
    String.append_assoc, Option.toList_map]

theorem takes_parameters (page : SearchPage) (dialect : Dialect) :
    Takes (opening dialect ++ page.condition.text ++ closing page.after)
        page.parameters.length := by
  have total :
      1 + page.condition.values.length + (page.after.toList.length + 2) =
        page.parameters.length := by
    simp [parameters]
    omega
  rw [← total]
  exact ((takes_opening dialect).append page.condition.takes_text).append
    (takes_closing page.after)

theorem compile_statement (page : SearchPage) (dialect : Dialect) :
    (page.statement dialect).compile =
      .ok ⟨(page.statement dialect).text, page.parameters⟩ := by
  rw [statement_eq]
  exact Statement.compile_of_takes (page.takes_parameters dialect)

/-- The statement of every page of a search is compiled as it was built. The
kind of the entities is bound before the condition, the values of the condition
in it, leaf by leaf from the left, and behind it the last key, if there is one,
and the limit and the offset. -/
theorem statement_binds_values {filter : Filter} {condition : Condition}
    (translated : filter.storedCondition scope converter = .ok condition)
    (dialect : Dialect) (last : Option ResultRow) (window : Window) :
    ∃ bound, List.Forall₂ (Binds scope converter) filter.leaves bound ∧
      condition.values = bound.flatten ∧
        let page := following scope condition last window
        (∀ tables,
          (searchSource converter scope condition).page last window tables =
            page.rows tables) ∧
          (page.statement dialect).text =
            opening dialect ++ condition.text ++ closing page.after ∧
          Takes (opening dialect) 1 ∧
            Takes condition.text condition.values.length ∧
            Takes (closing page.after) (page.after.toList.length + 2) ∧
              (page.statement dialect).compile =
                .ok
                  { text := (page.statement dialect).text
                    values :=
                      .text scope.name ::
                        (condition.values ++ page.after.toList.map .text ++
                          [.ofNat window.limit, .ofNat window.offset]) } := by
  obtain ⟨_, accepted⟩ := storedCondition_eq_ok_iff.mp translated
  obtain ⟨bound, binds, values⟩ := exists_bound filter accepted
  refine ⟨bound, binds, values, ?_⟩
  intro page
  have text := congrArg Statement.text (page.statement_eq dialect)
  exact ⟨page_searchSource condition last window, text, takes_opening dialect,
    condition.takes_text, takes_closing page.after,
      page.compile_statement dialect⟩

/-- A filter whose values look like parts of a statement. -/
def quotedFilter : Filter :=
  .and
    [.equals "memberOf" "it's ?",
      .not (.substring "display-name" ⟨some ":A", ["?", "%"], none⟩),
      .present "email"]

/-- The condition that it becomes. -/
def quotedCondition : Condition :=
  .and
    [.equals .memberOf (.text "it's ?"), .not (.like .displayName ":a%?%!%%"),
      .present .email]

theorem quotedFilter_translated :
    quotedFilter.storedCondition .user .standard = .ok quotedCondition := by
  rfl

/-- A row that a page may end with. -/
def quotedRow : ResultRow :=
  ⟨[("ID_KEY", .text "o'hara")]⟩

theorem statement_binds_values_quoted :
    quotedFilter.storedCondition .user .standard = .ok quotedCondition ∧
      let page := following .user quotedCondition (some quotedRow) ⟨3, 2⟩
      (page.statement .mysql).compile =
        .ok
          { text := (page.statement .mysql).text
            values :=
              [.text "USER", .text "it's ?", .text ":a%?%!%%", .text "o'hara",
                .integer 2,
                .integer 3] } := by
  have key : quotedRow.text? "id_key" = some "o'hara" := by decide +kernel
  obtain ⟨_, _, _, _, _, _, _, _, compiled⟩ :=
    statement_binds_values quotedFilter_translated .mysql
      (some quotedRow) ⟨3, 2⟩
  refine ⟨quotedFilter_translated, ?_⟩
  simp only [following, Option.bind_some, key] at compiled ⊢
  exact compiled

/-- Filters that are combined alike from leaves on the same columns become
conditions with the same text, and so do the statements of their pages. Only the
values differ, and these are as many. -/
theorem statements_of_alike {left right : Filter} {condition other : Condition}
    (alike : left.Alike right)
    (translated : left.storedCondition scope converter = .ok condition)
    (translatedOther : right.storedCondition scope converter = .ok other) :
    condition.text = other.text ∧
      condition.values.length = other.values.length ∧
      ∀ (dialect : Dialect) (key otherKey : Option String)
        (window otherWindow : Window),
        key.isSome = otherKey.isSome →
          (SearchPage.statement ⟨scope, condition, key, window⟩ dialect).text =
            (SearchPage.statement ⟨scope, other, otherKey, otherWindow⟩
                dialect).text := by
  obtain ⟨_, accepted⟩ := storedCondition_eq_ok_iff.mp translated
  obtain ⟨_, acceptedOther⟩ := storedCondition_eq_ok_iff.mp translatedOther
  have text := Alike.text_eq left alike accepted acceptedOther
  refine ⟨text, ?_, ?_⟩
  · rw [← condition.takes_text.marks, ← other.takes_text.marks, text]
  · intro dialect key otherKey window otherWindow continues
    simp [statement_eq, Statement.bindAll, closing, text, continues]

/-- A filter like the quoted one, with harmless values. -/
def plainFilter : Filter :=
  .and
    [.equals "MEMBER_OF" "staff",
      .not (.substring "displayName" ⟨none, [], none⟩),
      .present "e-mail"]

theorem statements_of_alike_quoted :
    quotedFilter.Alike plainFilter ∧
      ∃ condition, plainFilter.storedCondition .user .standard = .ok condition ∧
        quotedCondition.text = condition.text := by
  have alike : quotedFilter.Alike plainFilter := by
    refine .and _ _ (.cons ?_ (.cons ?_ (.cons ?_ .nil)))
    · exact .equals _ _ _ _ (by decide +kernel)
    · exact .not _ _ (.substring _ _ _ _ (by decide +kernel))
    · exact .present _ _ (by decide +kernel)
  have translated : plainFilter.storedCondition .user .standard = .ok
      (.and [.equals .memberOf (.text "staff"), .not (.like .displayName "%"),
          .present .email]) := by
    rfl
  obtain ⟨text, _⟩ :=
    statements_of_alike alike quotedFilter_translated translated
  exact ⟨alike, _, translated, text⟩

end SearchPage

end CachedDirectory
