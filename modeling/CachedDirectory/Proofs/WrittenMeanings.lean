import CachedDirectory.Proofs.FirstFaults
import CachedDirectory.Proofs.WrittenFilters

/-!
# What written filters mean

Filters that pass their check and are written alike mean the same. Their
attributes are names of columns, which have no marks in them, so what the
written form shows of them can be read back. The written form hides whether an
edge of a pattern is missing or empty, and whether a comparison is a presence or
a pattern of two empty edges; every entity matches either both or neither of
these.
-/

namespace CachedDirectory

/-! ## Filters that pass their check -/

namespace Column

/-- The names of columns consist of letters, so an attribute that means one has
no marks in it. -/
theorem notMem_of_ofAttribute? {attr : String} {column : Column}
    (means : ofAttribute? attr = some column) {mark : Char}
    (isMark : mark ∈ ['=', '&', '|', '!']) :
    mark ∉ attr.toList := by
  intro member
  have names : normalizeAttribute column.name = normalizeAttribute attr := by
    simpa using List.find?_some means
  have counts : (['=', '&', '|', '!'].all fun mark =>
      mark != '_' && mark != '-' && (Text.lowerChar mark).contains mark) =
        true := by decide
  have letters : (all.all fun column => ['=', '&', '|', '!'].all fun mark =>
      !(normalizeAttribute column.name).contains mark) = true := by decide
  have kept : mark ∈ normalizeAttribute attr := by
    obtain ⟨counted, lowered⟩ :=
      Bool.and_eq_true_iff.mp (List.all_eq_true.mp counts mark isMark)
    exact List.mem_flatMap.mpr
      ⟨mark, List.mem_filter.mpr ⟨member, counted⟩,
        List.contains_iff_mem.mp lowered⟩
  have absent := List.all_eq_true.mp
    (List.all_eq_true.mp letters column (List.mem_of_find?_eq_some means))
      mark isMark
  rw [← names] at kept
  simp [kept] at absent

end Column

namespace Filter

variable {scope : EntityKind}

/-- What a filter consists of that passes its check. -/
inductive Fits (scope : EntityKind) : Filter → Prop
  | equals {attr value : String} {column : Column}
      (means : Means scope attr column) :
      Fits scope (equals attr value)
  | substring {attr : String} {pattern : Pattern} {column : Column}
      (means : Means scope attr column) (searchable : IsSearchable column) :
      Fits scope (substring attr pattern)
  | present {attr : String} {column : Column}
      (means : Means scope attr column) :
      Fits scope (present attr)
  | and {parts : List Filter} (each : ∀ part ∈ parts, Fits scope part) :
      Fits scope (and parts)
  | or {parts : List Filter} (each : ∀ part ∈ parts, Fits scope part) :
      Fits scope (or parts)
  | not {part : Filter} (inner : Fits scope part) : Fits scope (not part)

mutual

theorem fits_of_check (converter : Converter) : ∀ filter : Filter,
    filter.check scope converter = .ok ⟨⟩ → Fits scope filter
  | equals attr value, checked => by
      obtain ⟨column, resolved, -⟩ := Answer.bind_eq_ok_iff.mp checked
      exact .equals (resolveColumn_eq_ok_iff.mp resolved)
  | substring attr pattern, checked => by
      obtain ⟨column, resolved, rest⟩ := Answer.bind_eq_ok_iff.mp checked
      obtain ⟨_, admitted, -⟩ := Answer.bind_eq_ok_iff.mp rest
      exact .substring (resolveColumn_eq_ok_iff.mp resolved)
        (admitSubstring_eq_ok_iff.mp admitted)
  | present attr, checked => by
      obtain ⟨column, resolved, -⟩ := Answer.bind_eq_ok_iff.mp checked
      exact .present (resolveColumn_eq_ok_iff.mp resolved)
  | and parts, checked => .and (fits_of_checkAll converter parts checked)
  | or parts, checked => .or (fits_of_checkAll converter parts checked)
  | not part, checked => .not (fits_of_check converter part checked)
  | greaterOrEqual _ _, checked => nomatch checked
  | lessOrEqual _ _, checked => nomatch checked
  | approximate _ _, checked => nomatch checked
  | extensible _ _ _, checked => nomatch checked

theorem fits_of_checkAll (converter : Converter) : ∀ filters : List Filter,
    checkAll scope converter filters = .ok ⟨⟩ → ∀ part ∈ filters,
      Fits scope part
  | [], _ => fun _ member => nomatch member
  | part :: rest, checked => by
      obtain ⟨_, here, later⟩ := Answer.bind_eq_ok_iff.mp checked
      exact List.forall_mem_cons.mpr
        ⟨fits_of_check converter part here,
          fits_of_checkAll converter rest later⟩

end

theorem writtenAll_eq_map (filters : List Filter) :
    writtenAll filters = filters.map written := by
  induction filters with
  | nil => rfl
  | cons part rest inductionHypothesis =>
      rw [writtenAll, inductionHypothesis, List.map_cons]

theorem readable_written {filter : Filter} (fits : Fits scope filter) :
    filter.written.Readable := by
  have each {parts : List Filter}
    (readable : ∀ part ∈ parts, part.written.Readable) :
      ∀ part ∈ writtenAll parts, part.Readable := by
    rw [writtenAll_eq_map]
    exact List.forall_mem_map.mpr readable
  induction fits with
  | equals means =>
      exact .comparison fun _ => Column.notMem_of_ofAttribute? means.1
  | substring means searchable =>
      exact .comparison fun _ => Column.notMem_of_ofAttribute? means.1
  | present means =>
      exact .comparison fun _ => Column.notMem_of_ofAttribute? means.1
  | and _ inductionHypothesis => exact .and (each inductionHypothesis)
  | or _ inductionHypothesis => exact .or (each inductionHypothesis)
  | not _ inductionHypothesis => exact .not inductionHypothesis

/-- Filters that pass their check show the same if they are written alike. -/
theorem written_eq_of_write_eq {left right : Filter}
    (leftFits : Fits scope left) (rightFits : Fits scope right)
    (same : left.write = right.write) :
    left.written = right.written := by
  have texts : left.written.text ++ [] = right.written.text ++ [] := by
    rw [← toList_write, ← toList_write, same]
  exact (WrittenFilter.text_append_inj (readable_written leftFits) _ _ _
    (readable_written rightFits) texts).1

end Filter

/-! ## Meaning -/

namespace Pattern

/-- The pattern with empty edges in the place of missing ones. -/
def filled (pattern : Pattern) : Pattern :=
  ⟨some (pattern.initial.getD ""), pattern.middle, some (pattern.final.getD "")⟩

/-- An empty edge is as good as none. -/
theorem filled_accepts (pattern : Pattern) (value : String) :
    pattern.filled.accepts value = pattern.accepts value := by
  obtain ⟨initial, middle, final⟩ := pattern
  have start : afterInitial? (some (initial.getD "")) value.toList =
      afterInitial? initial value.toList := by
    cases initial with
    | none => simp [afterInitial?]
    | some fragment => rfl
  have finish (rest : List Char) :
      endsWith (some (final.getD "")) rest = endsWith final rest := by
    cases final with
    | none => simp [endsWith]
    | some fragment => rfl
  rw [accepts, accepts, filled, start]
  cases (afterInitial? initial value.toList).bind (afterMiddle? middle) with
  | none => rfl
  | some rest => exact finish rest

theorem filled_map {change : String → String} (blank : change "" = "")
    (pattern : Pattern) :
    pattern.filled.map change = (pattern.map change).filled := by
  obtain ⟨initial, middle, final⟩ := pattern
  cases initial <;> cases final <;> simp [filled, map, blank]

end Pattern

namespace AttributeValue

theorem values_flag_ne_nil (value : Bool) : (flag value).values ≠ [] := by
  cases value <;> decide

theorem values_ne_nil_of_ofList {values : List String} {value : AttributeValue}
    (listed : ofList values = some value) : value.values ≠ [] := by
  rw [ofList] at listed
  split at listed
  · cases listed
  · rename_i nonempty
    cases listed
    exact fun empty => nonempty (List.isEmpty_iff.mpr empty)

theorem values_ne_nil_of_map_text {content : Option String}
    {value : AttributeValue} (given : content.map text = some value) :
    value.values ≠ [] := by
  obtain ⟨single, -, rfl⟩ := Option.map_eq_some_iff.mp given
  exact List.cons_ne_nil single []

end AttributeValue

namespace Entity

/-- A column of an entity that has a value has a single one. -/
theorem values_ne_nil {entity : Entity} {column : Column}
    {value : AttributeValue} (found : entity.value? column = some value) :
    value.values ≠ [] := by
  have held : entity.field column = some value := by
    rw [value?] at found
    split at found
    · exact found
    · cases found
  unfold field at held
  split at held
  all_goals first
    | exact AttributeValue.values_ne_nil_of_map_text held
    | exact AttributeValue.values_ne_nil_of_ofList held
    | exact Option.some.inj held ▸ List.cons_ne_nil _ []
    | exact Option.some.inj held ▸ AttributeValue.values_flag_ne_nil _
    | exact nomatch held

end Entity

namespace Filter

variable {scope : EntityKind}

theorem storedFragment_blank (column : Column) :
    storedFragment .standard column "" = "" := by
  cases column <;> decide

theorem holdsPattern_filled (entity : Entity) (column : Column)
    (pattern : Pattern) :
    holdsPattern .standard entity column pattern.filled =
      holdsPattern .standard entity column pattern := by
  rw [holdsPattern, holdsPattern,
    Pattern.filled_map (storedFragment_blank column)]
  congr 1
  funext stored
  cases stored with
  | text content => exact Pattern.filled_accepts _ content
  | _ => rfl

/-- A pattern without fragments is matched by every value. -/
theorem holdsPattern_blank {column : Column} (searchable : IsSearchable column)
    (entity : Entity) :
    holdsPattern .standard entity column ⟨none, [], none⟩ =
        (entity.value? column).isSome := by
  rw [holdsPattern, storedValues]
  cases found : entity.value? column with
  | none => rfl
  | some value =>
      obtain ⟨single, listed⟩ :=
        List.exists_mem_of_ne_nil _ (Entity.values_ne_nil found)
      refine List.any_eq_true.mpr ⟨.text (Text.fold single), ?_, rfl⟩
      exact List.mem_filterMap.mpr
        ⟨single, listed, toStore_of_folded searchable single⟩

/-- Whether an entity has a value in a column that a comparison with these
pieces accepts. -/
def holdsPieces (entity : Entity) (column : Column) (first : String)
    (others : List String) :
    Bool :=
  if others = [] then
    holdsEqual .standard entity column first
  else if first = "" ∧ others = [""] then
    (entity.value? column).isSome
  else
    holdsPattern .standard entity column
      ⟨some first, others.dropLast, others.getLast?⟩

end Filter

namespace WrittenFilter

mutual

/-- Whether an entity matches what the written form of a filter shows. -/
def holds (entity : Entity) : WrittenFilter → Bool
  | comparison left first others =>
      match Column.ofAttribute? left with
      | some column => Filter.holdsPieces entity column first others
      | none => false
  | and parts => holdsAll entity parts
  | or parts => holdsAny entity parts
  | not part => !holds entity part

/-- Whether an entity matches all written filters of a list. -/
def holdsAll (entity : Entity) : List WrittenFilter → Bool
  | [] => true
  | part :: rest => holds entity part && holdsAll entity rest

/-- Whether an entity matches some written filter of a list. -/
def holdsAny (entity : Entity) : List WrittenFilter → Bool
  | [] => false
  | part :: rest => holds entity part || holdsAny entity rest

end

end WrittenFilter

namespace Filter

variable {scope : EntityKind}

/-- A pattern means what its pieces mean. -/
theorem holdsPieces_eq_holdsPattern {column : Column}
    (searchable : IsSearchable column) (entity : Entity) (pattern : Pattern) :
    holdsPieces entity column (pattern.initial.getD "")
        (pattern.middle ++ [pattern.final.getD ""]) =
      holdsPattern .standard entity column pattern := by
  rw [holdsPieces, if_neg (by simp), List.dropLast_concat, List.getLast?_concat,
    ← holdsPattern_filled entity column pattern]
  split
  · rename_i blank
    obtain ⟨initial, middle, final⟩ := pattern
    obtain ⟨noInitial, rfl, noFinal⟩ :
        initial.getD "" = "" ∧ middle = [] ∧ final.getD "" = "" := by
      simpa [List.append_eq_singleton_iff] using blank
    have empty :
        Pattern.filled ⟨initial, [], final⟩ =
            Pattern.filled ⟨none, [], none⟩ := by
      rw [Pattern.filled, Pattern.filled, noInitial, noFinal]
      rfl
    rw [empty, holdsPattern_filled, holdsPattern_blank searchable]
  · rfl

theorem evaluateAll_eq_holdsAll {entity : Entity} {parts : List Filter}
    (each :
      ∀ part ∈ parts,
        part.evaluate .standard entity = part.written.holds entity) :
    evaluateAll .standard entity parts =
      WrittenFilter.holdsAll entity (writtenAll parts) ∧
      evaluateAny .standard entity parts =
          WrittenFilter.holdsAny entity (writtenAll parts) := by
  induction parts with
  | nil => exact ⟨rfl, rfl⟩
  | cons part rest inductionHypothesis =>
      obtain ⟨here, later⟩ := List.forall_mem_cons.mp each
      obtain ⟨all, any⟩ := inductionHypothesis later
      rw [evaluateAll, evaluateAny, writtenAll, WrittenFilter.holdsAll,
        WrittenFilter.holdsAny, here, all, any]
      exact ⟨rfl, rfl⟩

/-- What a filter means is told by what its written form shows. -/
theorem evaluate_eq_holds {filter : Filter} (fits : Fits scope filter)
    (entity : Entity) :
    filter.evaluate .standard entity = filter.written.holds entity := by
  induction fits with
  | equals means => rfl
  | substring means searchable =>
      rw [evaluate, written, WrittenFilter.holds, means.1]
      exact (holdsPieces_eq_holdsPattern searchable entity _).symm
  | present means => rfl
  | and _ inductionHypothesis =>
      exact (evaluateAll_eq_holdsAll inductionHypothesis).1
  | or _ inductionHypothesis =>
      exact (evaluateAll_eq_holdsAll inductionHypothesis).2
  | not _ inductionHypothesis => exact congrArg (! ·) inductionHypothesis

/-- Filters that pass their check and are written alike show the same structure
and the same pieces, and every entity that matches one of them matches the
other. -/
theorem write_determines_meaning {left right : Filter}
    (leftChecked : left.check scope .standard = .ok ⟨⟩)
    (rightChecked : right.check scope .standard = .ok ⟨⟩)
    (same : left.write = right.write) :
    left.written = right.written ∧
      ∀ entity : Entity,
          left.evaluate .standard entity = right.evaluate .standard entity := by
  have leftFits := fits_of_check .standard left leftChecked
  have rightFits := fits_of_check .standard right rightChecked
  have shown := written_eq_of_write_eq leftFits rightFits same
  refine ⟨shown, fun entity => ?_⟩
  rw [evaluate_eq_holds leftFits, evaluate_eq_holds rightFits, shown]

/-- A fragment that looks like two comparisons, behind a presence. -/
def lookalikeSample : Filter :=
  .and [.present "email", .contains "displayName" "a*)(id=b"]

/-- The same written with empty edges and with a pattern in the place of the
presence. -/
def filledLookalikeSample : Filter :=
  .and
    [.substring "email" ⟨none, [], none⟩,
      .substring "displayName" ⟨some "", ["a*)(id=b"], some ""⟩]

theorem write_determines_meaning_lookalike :
    lookalikeSample.check .user .standard = .ok ⟨⟩ ∧
      filledLookalikeSample.check .user .standard = .ok ⟨⟩ ∧
      lookalikeSample.write = "(&(email=*)(displayName=*a\\2a\\29\\28id=b*))" ∧
      filledLookalikeSample.write = lookalikeSample.write ∧
      ∀ entity : Entity,
        lookalikeSample.evaluate .standard entity =
          filledLookalikeSample.evaluate .standard entity := by
  have checked : lookalikeSample.check .user .standard = .ok ⟨⟩ := by rfl
  have filledChecked :
      filledLookalikeSample.check .user .standard = .ok ⟨⟩ := by
    rfl
  have same : lookalikeSample.write = filledLookalikeSample.write := by
    decide +kernel
  exact ⟨checked, filledChecked, by decide +kernel, same.symm,
    (write_determines_meaning checked filledChecked same).2⟩

end Filter

end CachedDirectory
