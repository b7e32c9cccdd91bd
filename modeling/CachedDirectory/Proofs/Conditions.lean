import CachedDirectory.Proofs.Integrity
import CachedDirectory.Proofs.Patterns
import CachedDirectory.Proofs.StoredEntities
import Mathlib.Data.List.TakeWhile

/-!
# Conditions and filters

The condition that a filter becomes is never unknown on a stored row, and it is
true exactly if the filter accepts the entity that the row denotes. A cell that
holds nothing would make a comparison unknown, and with it the negation of the
comparison; every leaf is guarded against that.
-/

namespace CachedDirectory

open Text

namespace SqlValue

/-- Whether the store compares these texts with these patterns code point by
code point, whatever the case of ASCII letters. -/
def LikeComparesPoints (patterns contents : List String) : Prop :=
  ∀ pattern ∈ patterns, ∀ content ∈ contents,
    like pattern (.text content) =
      .ofBool (matchesLike sameLetter pattern.toList content.toList)

/-- Whether a character is seen as it is by a comparison with a pattern. -/
def isPlain (c : Char) : Bool :=
  c != '\x00' && c.toNat / 2 != 0x7FFF

theorem visible_of_isPlain {content : String}
    (plain : content.toList.all isPlain = true) :
    visible content = content.toList := by
  rw [List.all_eq_true] at plain
  have whole : content.toList.takeWhile (· != '\x00') = content.toList :=
    List.takeWhile_eq_self_iff.mpr fun c member =>
      (Bool.and_eq_true_iff.mp (plain c member)).1
  rw [visible, whole]
  have kept :
      content.toList.map
        (fun c => if c.toNat / 2 == 0x7FFF then '\uFFFD' else c) =
        content.toList.map id := by
    apply List.map_congr_left
    intro c member
    have other := (Bool.and_eq_true_iff.mp (plain c member)).2
    rw [if_neg]
    · rfl
    · simpa using other
  rw [kept, List.map_id]

/-- The store compares so wherever the texts have no null characters and no code
points that are no characters. -/
theorem likeComparesPoints_of_isPlain {patterns contents : List String}
    (plainPatterns : ∀ pattern ∈ patterns, pattern.toList.all isPlain = true)
    (plainContents : ∀ content ∈ contents, content.toList.all isPlain = true) :
    LikeComparesPoints patterns contents := by
  intro pattern listed content stored
  rw [like, visible_of_isPlain (plainPatterns pattern listed),
    visible_of_isPlain (plainContents content stored)]

theorem LikeComparesPoints.mono {patterns others contents : List String}
    (compares : LikeComparesPoints patterns contents)
    (subset : others ⊆ patterns) :
    LikeComparesPoints others contents :=
  fun pattern listed => compares pattern (subset listed)

end SqlValue

namespace Filter

/-! ## Stored forms -/

theorem storeValue_eq_ok_iff {converter : Converter} {column : Column}
    {value : String} {stored : SqlValue} :
    storeValue converter column value = .ok stored ↔
      converter.toStore column value = some stored := by
  unfold storeValue
  cases converter.toStore column value <;> simp

theorem resolveColumn_eq_ok_iff {scope : EntityKind} {attr : String}
    {column : Column} :
    resolveColumn scope attr = .ok column ↔
      Column.ofAttribute? attr = some column ∧
          scope.hasColumn column = true := by
  unfold resolveColumn
  cases Column.ofAttribute? attr with
  | none => simp
  | some found =>
      dsimp only
      split
      · rename_i has
        constructor
        · intro equality
          cases equality
          exact ⟨rfl, has⟩
        · rintro ⟨equality, _⟩
          cases equality
          rfl
      · rename_i lacks
        constructor
        · exact fun equality => nomatch equality
        · rintro ⟨equality, has⟩
          cases equality
          exact absurd has lacks

theorem admitSubstring_eq_ok_iff {column : Column} {value : PUnit} :
    admitSubstring column = .ok value ↔
      column.kind = .identifier ∨ column.kind = .text ∨
          column.kind = .multiValued := by
  unfold admitSubstring
  cases column.kind <;> simp

/-- The columns that are searched for fragments keep their values folded. -/
theorem toStore_of_folded {column : Column}
    (sort :
      column.kind = .identifier ∨ column.kind = .text ∨
        column.kind = .multiValued) (value : String) :
    Converter.standard.toStore column value = some (.text (fold value)) := by
  show Converter.standardToStore column.kind value = _
  rcases sort with sort | sort | sort <;> rw [sort] <;> rfl

/-- Only truth values are not stored as texts. -/
theorem exists_text_of_toStore {column : Column} {value : String}
    {stored : SqlValue} (sort : column.kind ≠ .boolean)
    (storable : Converter.standard.toStore column value = some stored) :
    ∃ content, stored = .text content := by
  change Converter.standardToStore column.kind value = some stored at storable
  cases kind : column.kind with
  | boolean => exact absurd kind sort
  | discriminator =>
      rw [kind, Converter.standardToStore] at storable
      obtain ⟨found, _, rfl⟩ := Option.map_eq_some_iff.mp storable
      exact ⟨found.name, rfl⟩
  | identifier | text | multiValued =>
      rw [kind] at storable
      cases storable
      exact ⟨_, rfl⟩

theorem storeText_of_folded {column : Column}
    (sort :
      column.kind = .identifier ∨ column.kind = .text ∨
        column.kind = .multiValued) (fragment : String) :
    storeText .standard column fragment = .ok (fold fragment) := by
  rw [storeText, storeValue_eq_ok_iff.mpr (toStore_of_folded sort fragment)]

theorem storePattern_of_folded {column : Column}
    (sort :
      column.kind = .identifier ∨ column.kind = .text ∨
        column.kind = .multiValued) (pattern : Pattern) :
    storePattern .standard column pattern = .ok (pattern.map fold) := by
  have edge (fragment : Option String) :
      storeEdge .standard column fragment = .ok (fragment.map fold) := by
    cases fragment with
    | none => rfl
    | some fragment =>
        rw [storeEdge, storeText_of_folded sort]
        rfl
  have middle (fragments : List String) :
      storeMiddle .standard column fragments = .ok (fragments.map fold) := by
    induction fragments with
    | nil => rfl
    | cons fragment rest inductionHypothesis =>
        rw [storeMiddle, storeText_of_folded sort, inductionHypothesis]
        rfl
  rw [storePattern, edge, middle, edge]
  rfl

theorem isLowered_map_fold (pattern : Pattern) :
    (pattern.map fold).IsLowered := by
  intro fragment member
  have listed : ∃ original, fragment = fold original := by
    rcases pattern with ⟨initial, middle, final⟩
    simp only [Pattern.map, Pattern.fragments, List.mem_append,
      Option.mem_toList, Option.map_eq_some_iff, List.mem_map] at member
    rcases member with
        (⟨original, _, rfl⟩ | ⟨original, _, rfl⟩) | ⟨original, _, rfl⟩ <;>
      exact ⟨original, rfl⟩
  obtain ⟨original, rfl⟩ := listed
  exact isLowered_fold original

variable {tables : Tables} {row : EntityRow} {entity : Entity} {column : Column}

/-! ## The leaves of a filter -/

theorem isYes_equals_asText {value : SqlValue} {content : String} :
    (value.equals (SqlValue.text content).asText).isYes =
        (SqlValue.text content == value) := by
  rw [SqlValue.asText_text, SqlValue.isYes_equals_text, Bool.eq_iff_iff,
    decide_eq_true_iff, beq_iff_eq]
  exact eq_comm

/-- An equality holds of a row as it does of an entity that corresponds to
it. -/
theorem equalsHolds_eq (correspond : tables.Correspond row entity column)
    {value : String} {stored : SqlValue}
    (storable : Converter.standard.toStore column value = some stored) :
    Condition.equalsHolds tables row column stored =
      .ofBool (holdsEqual .standard entity column value) := by
  rw [holdsEqual, storable, Condition.equalsHolds]
  cases correspond with
  | filled content sort cell _ values _ =>
      have noFlag : column.kind ≠ .boolean := by
        rcases sort with sort | sort | sort <;> rw [sort] <;> decide
      obtain ⟨wanted, rfl⟩ := exists_text_of_toStore noFlag storable
      have contains :
          [SqlValue.text content].contains (.text wanted) =
              (content == wanted) := by
        rw [Bool.eq_iff_iff, List.contains_iff_mem, List.mem_singleton,
          beq_iff_eq, SqlValue.text.injEq]
        exact eq_comm
      rw [cell, values]
      dsimp only
      rw [contains]
      rcases sort with sort | sort | sort <;> rw [sort] <;> simp
  | missing sort cell values _ =>
      rw [cell, values, sort]
      rfl
  | flag flag sort cell values _ =>
      obtain ⟨wanted, rfl⟩ : ∃ wanted, stored = .ofBool wanted := by
        change Converter.standardToStore column.kind value =
          some stored at storable
        rw [sort, Converter.standardToStore] at storable
        obtain ⟨wanted, _, rfl⟩ := Option.map_eq_some_iff.mp storable
        exact ⟨wanted, rfl⟩
      rw [cell, values, sort]
      cases flag <;> cases wanted <;> rfl
  | linked sort ids keys values _ _ =>
      have noFlag : column.kind ≠ .boolean := by rw [sort]; decide
      obtain ⟨wanted, rfl⟩ := exists_text_of_toStore noFlag storable
      rw [sort, values]
      dsimp only
      rw [keys]
      simp only [isYes_equals_asText, List.contains_eq_any_beq]

theorem map_storedFragment
    (sort :
      column.kind = .identifier ∨ column.kind = .text ∨
        column.kind = .multiValued) (pattern : Pattern) :
    pattern.map (storedFragment .standard column) = pattern.map fold := by
  congr 1
  funext fragment
  rw [storedFragment, toStore_of_folded sort]

/-- A folded pattern is found in a text without capitals as the comparison of
points says. -/
theorem like_eq_accepts {pattern : Pattern} {contents : List String}
    (compares :
      SqlValue.LikeComparesPoints [(pattern.map fold).likeText] contents)
    {content : String} (lowered : IsLowered content.toList)
    (compared : content ∈ contents) :
    SqlValue.like (pattern.map fold).likeText (.text content) =
      .ofBool ((pattern.map fold).accepts content) := by
  rw [compares _ (List.mem_singleton.mpr rfl) content compared,
    Pattern.matchesLike_likeText (isLowered_map_fold pattern) lowered]

/-- A comparison with a pattern holds of a row as it does of an entity that
corresponds to it. -/
theorem likeHolds_eq (correspond : tables.Correspond row entity column)
    (stored : row ∈ tables.entities)
    (sort :
      column.kind = .identifier ∨ column.kind = .text ∨
        column.kind = .multiValued) (pattern : Pattern)
    (compares :
      SqlValue.LikeComparesPoints [(pattern.map fold).likeText]
        tables.comparedTexts) :
    Condition.likeHolds tables row column (pattern.map fold).likeText =
      .ofBool (holdsPattern .standard entity column pattern) := by
  rw [holdsPattern, map_storedFragment sort, Condition.likeHolds]
  cases correspond with
  | filled content filledSort cell lowered values _ =>
      have noKind : column.kind ≠ .discriminator := by
        rcases sort with sort | sort | sort <;> rw [sort] <;> decide
      have like :=
        like_eq_accepts compares (lowered noKind)
          (Tables.mem_comparedTexts stored cell)
      rw [cell, values, like]
      rcases filledSort with sort | sort | sort
      · exact absurd sort noKind
      · rw [sort]
        simp
      · rw [sort]
        simp
  | missing sort cell values _ =>
      rw [cell, values, sort]
      rfl
  | flag flag flagSort _ _ _ =>
      rw [flagSort] at sort
      simp at sort
  | linked sort ids keys values _ compared =>
      have likes : ∀ id ∈ ids,
          (SqlValue.like (pattern.map fold).likeText (.text (fold id))).isYes =
            (pattern.map fold).accepts (fold id) := by
        intro id listed
        rw [like_eq_accepts compares (isLowered_fold id) (compared id listed),
          Truth.isYes_ofBool]
      rw [sort, values]
      dsimp only
      rw [keys, List.any_map, List.any_map]
      congr 1
      rw [Bool.eq_iff_iff, List.any_eq_true, List.any_eq_true]
      exact exists_congr fun id => and_congr_right fun listed => by
        rw [Function.comp_apply, likes id listed, Function.comp_apply]

/-- A row has a value in a column if an entity that corresponds to it has
one. -/
theorem presentHolds_eq (correspond : tables.Correspond row entity column) :
    Condition.presentHolds tables row column =
        .ofBool (entity.value? column).isSome := by
  rw [Condition.presentHolds]
  cases correspond with
  | filled content sort cell _ _ present =>
      rw [present, cell]
      rcases sort with sort | sort | sort <;> rw [sort] <;> rfl
  | missing sort cell _ absent =>
      rw [absent, cell, sort]
      rfl
  | flag flag sort cell _ present =>
      rw [present, cell, sort]
      rfl
  | linked sort ids keys _ present _ =>
      rw [present, sort]
      dsimp only
      rw [keys]
      cases ids <;> simp

variable {scope : EntityKind}

mutual

/-- The condition that a filter becomes holds of a row as the filter does of an
entity whose columns correspond to those of the row, and is never unknown. -/
theorem holds_condition (stored : row ∈ tables.entities)
    (corresponds : ∀ column, scope.hasColumn column = true →
      tables.Correspond row entity column) :
    ∀ (filter : Filter) {condition : Condition},
      filter.condition scope .standard = .ok condition →
        SqlValue.LikeComparesPoints condition.patterns tables.comparedTexts →
          condition.holds tables row =
            .ofBool (filter.evaluate .standard entity)
  | .equals attr value, condition, translated, _ => by
      rw [Filter.condition] at translated
      obtain ⟨column, resolved, translated⟩ :=
        Answer.bind_eq_ok_iff.mp translated
      obtain ⟨cell, storable, translated⟩ := Answer.bind_eq_ok_iff.mp translated
      cases translated
      obtain ⟨found, has⟩ := resolveColumn_eq_ok_iff.mp resolved
      rw [Condition.holds, evaluate, found]
      exact equalsHolds_eq (corresponds column has)
        (storeValue_eq_ok_iff.mp storable)
  | .substring attr pattern, condition, translated, compares => by
      rw [Filter.condition] at translated
      obtain ⟨column, resolved, translated⟩ :=
        Answer.bind_eq_ok_iff.mp translated
      obtain ⟨_, admitted, translated⟩ := Answer.bind_eq_ok_iff.mp translated
      have sort := admitSubstring_eq_ok_iff.mp admitted
      rw [storePattern_of_folded sort] at translated
      cases translated
      obtain ⟨found, has⟩ := resolveColumn_eq_ok_iff.mp resolved
      rw [Condition.holds, evaluate, found]
      exact likeHolds_eq (corresponds column has) stored sort pattern compares
  | .present attr, condition, translated, _ => by
      rw [Filter.condition] at translated
      obtain ⟨column, resolved, translated⟩ :=
        Answer.bind_eq_ok_iff.mp translated
      cases translated
      obtain ⟨found, has⟩ := resolveColumn_eq_ok_iff.mp resolved
      rw [Condition.holds, evaluate, found]
      exact presentHolds_eq (corresponds column has)
  | .and parts, condition, translated, compares => by
      rw [Filter.condition] at translated
      obtain ⟨conditions, translatedParts, translated⟩ :=
        Answer.bind_eq_ok_iff.mp translated
      cases translated
      rw [Condition.holds, evaluate]
      exact (holds_conditions stored corresponds parts translatedParts
        compares).1
  | .or parts, condition, translated, compares => by
      rw [Filter.condition] at translated
      obtain ⟨conditions, translatedParts, translated⟩ :=
        Answer.bind_eq_ok_iff.mp translated
      cases translated
      rw [Condition.holds, evaluate]
      exact (holds_conditions stored corresponds parts translatedParts
        compares).2
  | .not part, condition, translated, compares => by
      rw [Filter.condition] at translated
      obtain ⟨negated, translatedPart, translated⟩ :=
        Answer.bind_eq_ok_iff.mp translated
      cases translated
      rw [Condition.holds, evaluate,
        holds_condition stored corresponds part translatedPart compares,
        Truth.not_ofBool]
  | .greaterOrEqual attr value, condition, translated, _ => by
      rw [Filter.condition] at translated
      cases translated
  | .lessOrEqual attr value, condition, translated, _ => by
      rw [Filter.condition] at translated
      cases translated
  | .approximate attr value, condition, translated, _ => by
      rw [Filter.condition] at translated
      cases translated
  | .extensible rule attr value, condition, translated, _ => by
      rw [Filter.condition] at translated
      cases translated

/-- The same for the parts of a conjunction or a disjunction. -/
theorem holds_conditions (stored : row ∈ tables.entities)
    (corresponds : ∀ column, scope.hasColumn column = true →
      tables.Correspond row entity column) :
    ∀ (filters : List Filter) {parts : List Condition},
      conditions scope .standard filters = .ok parts →
        SqlValue.LikeComparesPoints (Condition.patternsAll parts)
          tables.comparedTexts →
          Condition.holdsAll tables row parts =
              .ofBool (evaluateAll .standard entity filters) ∧
            Condition.holdsAny tables row parts =
              .ofBool (evaluateAny .standard entity filters)
  | [], parts, translated, _ => by
      rw [conditions] at translated
      cases translated
      exact ⟨rfl, rfl⟩
  | filter :: rest, parts, translated, compares => by
      rw [conditions] at translated
      obtain ⟨first, translatedFirst, translated⟩ :=
        Answer.bind_eq_ok_iff.mp translated
      obtain ⟨others, translatedRest, translated⟩ :=
        Answer.bind_eq_ok_iff.mp translated
      cases translated
      rw [Condition.patternsAll] at compares
      have here := holds_condition stored corresponds filter translatedFirst
        (compares.mono (List.subset_append_left _ _))
      have later := holds_conditions stored corresponds rest translatedRest
        (compares.mono (List.subset_append_right _ _))
      constructor
      · rw [Condition.holdsAll, here, later.1, Truth.and_ofBool, evaluateAll]
      · rw [Condition.holdsAny, here, later.2, Truth.or_ofBool, evaluateAny]

end

/-! ## Faults of a filter -/

theorem checkFragments_append (converter : Converter) (column : Column)
    (left right : List String) :
    checkFragments converter column (left ++ right) =
      checkFragments converter column left >>=
          fun _ => checkFragments converter column right := by
  induction left with
  | nil => rfl
  | cons fragment rest inductionHypothesis =>
      rw [List.cons_append, checkFragments, checkFragments, inductionHypothesis]
      cases storeText converter column fragment <;> rfl

theorem checkFragments_fragments (converter : Converter) (column : Column)
    (pattern : Pattern) :
    checkFragments converter column pattern.fragments =
      (storePattern converter column pattern).map fun _ => ⟨⟩ := by
  have edge (fragment : Option String) :
      checkFragments converter column fragment.toList =
        (storeEdge converter column fragment).map fun _ => ⟨⟩ := by
    cases fragment with
    | none => rfl
    | some fragment =>
        rw [Option.toList, checkFragments, storeEdge]
        cases storeText converter column fragment <;> rfl
  have middle (fragments : List String) :
      checkFragments converter column fragments =
        (storeMiddle converter column fragments).map fun _ => ⟨⟩ := by
    induction fragments with
    | nil => rfl
    | cons fragment rest inductionHypothesis =>
        rw [checkFragments, storeMiddle, inductionHypothesis]
        cases storeText converter column fragment <;>
          cases storeMiddle converter column rest <;> rfl
  rw [Pattern.fragments, checkFragments_append, checkFragments_append, edge,
    middle, edge, storePattern]
  cases storeEdge converter column pattern.initial <;>
    cases storeMiddle converter column pattern.middle <;>
      cases storeEdge converter column pattern.final <;> rfl

mutual

/-- A filter is refused for the same fault, whether it is only checked or
becomes a condition. -/
theorem check_eq (scope : EntityKind) (converter : Converter) :
    ∀ filter : Filter,
    filter.check scope converter =
      (filter.condition scope converter).map fun _ => ⟨⟩
  | .equals attr value => by
      rw [check, condition]
      cases resolveColumn scope attr with
      | error error => rfl
      | ok column =>
          show (storeValue converter column value >>= _) =
            Except.map _ (storeValue converter column value >>= _)
          cases storeValue converter column value <;> rfl
  | .substring attr pattern => by
      rw [check, condition]
      cases resolveColumn scope attr with
      | error error => rfl
      | ok column =>
          show (admitSubstring column >>= _) =
            Except.map _ (admitSubstring column >>= _)
          cases admitSubstring column with
          | error error => rfl
          | ok admitted =>
              show checkFragments converter column pattern.fragments =
                Except.map _ (storePattern converter column pattern >>= _)
              rw [checkFragments_fragments]
              cases storePattern converter column pattern <;> rfl
  | .present attr => by
      rw [check, condition]
      cases resolveColumn scope attr <;> rfl
  | .and parts => by
      rw [check, condition, checkAll_eq scope converter parts]
      cases conditions scope converter parts <;> rfl
  | .or parts => by
      rw [check, condition, checkAll_eq scope converter parts]
      cases conditions scope converter parts <;> rfl
  | .not part => by
      rw [check, condition, check_eq scope converter part]
      cases condition scope converter part <;> rfl
  | .greaterOrEqual attr value => by
      rw [check, condition]
      rfl
  | .lessOrEqual attr value => by
      rw [check, condition]
      rfl
  | .approximate attr value => by
      rw [check, condition]
      rfl
  | .extensible rule attr value => by
      rw [check, condition]
      rfl

/-- The same for the parts of a conjunction or a disjunction. -/
theorem checkAll_eq (scope : EntityKind) (converter : Converter) :
    ∀ filters : List Filter,
    checkAll scope converter filters =
      (conditions scope converter filters).map fun _ => ⟨⟩
  | [] => by
      rw [checkAll, conditions]
      rfl
  | filter :: rest => by
      rw [checkAll, conditions, check_eq scope converter filter,
        checkAll_eq scope converter rest]
      cases condition scope converter filter <;> cases conditions scope
        converter rest <;> rfl

end

end Filter

namespace Replica

/-- In every store that calls have led to, the condition that a filter becomes
is never unknown of a row of the searched kind, and it is true exactly if the
filter accepts the entity that the row denotes. Comparisons with patterns are
taken to compare code points. -/
theorem condition_agrees_of_reached {replica : Replica}
    (reached : Reached replica) {scope : EntityKind} {filter : Filter}
    {condition : Condition}
    (translated : filter.storedCondition scope .standard = .ok condition)
    {row : EntityRow}
    (selected : row ∈ replica.tables.rowsOfKind (.text scope.name))
    (compares :
      SqlValue.LikeComparesPoints condition.patterns
        replica.tables.comparedTexts) :
    condition.holds replica.tables row ≠ .unknown ∧
      (condition.holds replica.tables row = .yes ↔
        filter.evaluate .standard (replica.tables.denoted row) = true) := by
  obtain ⟨stored, ofKind⟩ := List.mem_filter.mp selected
  rw [SqlValue.isYes_equals_text, decide_eq_true_iff] at ofKind
  have accepted : filter.condition scope .standard = .ok condition := by
    unfold Filter.storedCondition at translated
    split at translated
    · exact translated
    · cases translated
  have corresponds (column : Column) (has : scope.hasColumn column = true) :
      replica.tables.Correspond row (replica.tables.denoted row) column :=
    reached.sound.correspond stored ofKind has
  rw [filter.holds_condition stored corresponds accepted compares]
  exact ⟨Truth.ofBool_ne_unknown _, Truth.ofBool_eq_yes_iff _⟩

/-- A filter whose parts are a pattern, an edge and a value that is missing. -/
def sampleFilter : Filter :=
  .not
    (.and
      [.substring "display-name" ⟨none, ["LOVE"], none⟩,
        .equals "memberOf" "staff",
        .present "email"])

/-- The condition that the filter becomes. -/
def sampleCondition : Condition :=
  .not
    (.and
      [.like .displayName "%love%", .equals .memberOf (.text "staff"),
        .present .email])

/-- The row of the one user of the filled replica. -/
def sampleRow : EntityRow :=
  .ofUser "ada" ⟨"Ada", some "Ada Lovelace", none, none, none, true, []⟩

theorem condition_agrees_filled :
    sampleCondition.holds filled.tables sampleRow ≠ .unknown ∧
      (sampleCondition.holds filled.tables sampleRow = .yes ↔
        sampleFilter.evaluate .standard (filled.tables.denoted sampleRow) =
            true) := by
  have translated :
      sampleFilter.storedCondition .user .standard = .ok sampleCondition :=
    rfl
  have compares : SqlValue.LikeComparesPoints sampleCondition.patterns
      filled.tables.comparedTexts :=
    SqlValue.likeComparesPoints_of_isPlain (by decide +kernel)
      (by decide +kernel)
  exact condition_agrees_of_reached reached_filled translated
    (by decide +kernel) compares

end Replica

end CachedDirectory
