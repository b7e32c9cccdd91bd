import CachedDirectory.Proofs.Conditions

/-!
# The first fault of a filter

A filter is refused for the fault of its first leaf from the left that has one,
however deep the leaf stands and whatever its siblings would have decided. What
the faults of a leaf are is said here once more, apart from the code that finds
them: the check of a filter and the condition that it becomes report the same
ones, in the same words.
-/

namespace CachedDirectory

/-- Whether an error is the fault of the first item in a list that has one. -/
def IsFirstFault {α : Type} (fault : α → DirectoryError → Prop) (items : List α)
    (error : DirectoryError) : Prop :=
  ∃ before item after,
    items = before ++ item :: after ∧
      (∀ earlier ∈ before, ∀ other, ¬fault earlier other) ∧ fault item error

section Walks

variable {α β : Type} {fault : α → DirectoryError → Prop}
  {error : DirectoryError}

theorem not_isFirstFault_nil : ¬IsFirstFault fault [] error := by
  rintro ⟨before, item, after, split, _⟩
  cases before <;> cases split

/-- The first fault of a list is that of its head, or else the first of the
rest. -/
theorem isFirstFault_cons_iff {item : α} {rest : List α} :
    IsFirstFault fault (item :: rest) error ↔
      fault item error ∨
          (∀ other, ¬fault item other) ∧ IsFirstFault fault rest error := by
  constructor
  · rintro ⟨before, faulty, after, split, sound, here⟩
    cases before with
    | nil =>
        cases split
        exact Or.inl here
    | cons first before =>
        cases split
        refine Or.inr ⟨sound item List.mem_cons_self, before, faulty, after,
          rfl, ?_, here⟩
        exact fun earlier member =>
          sound earlier (List.mem_cons_of_mem item member)
  · rintro (here | ⟨sound, before, faulty, after, rfl, earlierSound, here⟩)
    · exact ⟨[], item, rest, rfl,
        fun _ member => absurd member List.not_mem_nil, here⟩
    · refine ⟨item :: before, faulty, after, rfl, ?_, here⟩
      intro earlier member
      rcases List.mem_cons.mp member with rfl | later
      · exact sound
      · exact earlierSound earlier later

/-- A walk that tries one item after the other and stops at an error ends with
the first fault. -/
theorem isFirstFault_of_walk {attempt : α → Answer β}
    {walk : List α → Answer PUnit} (start : walk [] = .ok ⟨⟩)
    (onward :
      ∀ item rest, walk (item :: rest) = attempt item >>= fun _ => walk rest)
    {items : List α}
    (faults :
      ∀ item ∈ items, ∀ error, attempt item = .error error ↔ fault item error) :
    walk items = .error error ↔ IsFirstFault fault items error := by
  induction items with
  | nil =>
      rw [start]
      constructor
      · exact fun failed => nomatch failed
      · exact fun first => absurd first not_isFirstFault_nil
  | cons item rest inductionHypothesis =>
      have here := faults item List.mem_cons_self
      have later := inductionHypothesis fun other member =>
        faults other (List.mem_cons_of_mem item member)
      rw [onward, isFirstFault_cons_iff, ← later]
      cases tried : attempt item with
      | ok value =>
          have sound : ∀ other, ¬fault item other := by
            intro other faulty
            have failed := (here other).mpr faulty
            rw [tried] at failed
            cases failed
          exact ⟨fun failed => Or.inr ⟨sound, failed⟩, fun either =>
            either.elim (fun faulty => absurd faulty (sound error)) And.right⟩
      | error found =>
          have faulty : fault item found := (here found).mp tried
          constructor
          · intro failed
            cases failed
            exact Or.inl faulty
          · rintro (other | ⟨sound, _⟩)
            · have same := (here error).mpr other
              cases tried.symm.trans same
              rfl
            · exact absurd faulty (sound found)

end Walks

namespace Filter

mutual

/-- The leaves of a filter from left to right. -/
def leaves : Filter → List Filter
  | and parts => leavesAll parts
  | or parts => leavesAll parts
  | not part => leaves part
  | leaf => [leaf]

/-- The leaves of filters, one filter after the other. -/
def leavesAll : List Filter → List Filter
  | [] => []
  | part :: rest => leaves part ++ leavesAll rest

end

/-- Whether a filter has no parts that are filters. -/
def isLeaf : Filter → Bool
  | and _ | or _ | not _ => false
  | _ => true

/-- The attribute of a leaf that can be answered if the attribute is known. -/
def attribute? : Filter → Option String
  | equals attr _ | substring attr _ | present attr => some attr
  | _ => none

/-- Whether an attribute means a column of the entities of a kind. -/
def Means (scope : EntityKind) (attr : String) (column : Column) : Prop :=
  Column.ofAttribute? attr = some column ∧ scope.hasColumn column = true

/-- Whether fragments can be looked for in a column. -/
def IsSearchable (column : Column) : Prop :=
  column.kind = .identifier ∨ column.kind = .text ∨ column.kind = .multiValued

/-- What can be wrong with a fragment that is looked for in a column. -/
inductive FragmentFault (converter : Converter) (column : Column)
    (fragment : String) :
    DirectoryError → Prop
  | declined (declines : converter.toStore column fragment = none) :
      FragmentFault converter column fragment
        (.unsupported ("value '" ++ fragment ++ "' cannot be compared with " ++
          column.name))
  | noText (stored : SqlValue)
      (writes : converter.toStore column fragment = some stored)
      (other : ∀ content, stored ≠ .text content) :
      FragmentFault converter column fragment
        (.unsupported ("substring match on non-text column " ++ column.name))

/-- What can be wrong with a leaf of a filter on entities of a kind. -/
inductive LeafFault (scope : EntityKind) (converter : Converter) :
    Filter → DirectoryError → Prop
  | unknownColumn (leaf : Filter) (attr : String)
      (named : leaf.attribute? = some attr)
      (unknown : ∀ column, ¬Means scope attr column) :
      LeafFault scope converter leaf (.unknownColumn scope attr)
  | declined (attr value : String) (column : Column)
      (means : Means scope attr column)
      (declines : converter.toStore column value = none) :
      LeafFault scope converter (.equals attr value)
        (.unsupported ("value '" ++ value ++ "' cannot be compared with " ++
          column.name))
  | unsearchable (attr : String) (pattern : Pattern) (column : Column)
      (means : Means scope attr column) (other : ¬IsSearchable column) :
      LeafFault scope converter (.substring attr pattern)
        (.unsupported ("substring match on " ++ column.name))
  | fragment (attr : String) (pattern : Pattern) (column : Column)
      (error : DirectoryError)
      (means : Means scope attr column) (searchable : IsSearchable column)
      (first :
        IsFirstFault (FragmentFault converter column) pattern.fragments error) :
      LeafFault scope converter (.substring attr pattern) error
  | greaterOrEqual (attr value : String) :
      LeafFault scope converter (.greaterOrEqual attr value)
        (.unsupported ("ordering match on '" ++ attr ++ "'"))
  | lessOrEqual (attr value : String) :
      LeafFault scope converter (.lessOrEqual attr value)
        (.unsupported ("ordering match on '" ++ attr ++ "'"))
  | approximate (attr value : String) :
      LeafFault scope converter (.approximate attr value)
        (.unsupported ("approximate match on '" ++ attr ++ "'"))
  | extensible (rule attr : Option String) (value : String) :
      LeafFault scope converter (.extensible rule attr value)
        (.unsupported ("extensible match (rule " ++ rule.getD "none" ++ ")"))

variable {scope : EntityKind} {converter : Converter} {column : Column}
  {error : DirectoryError}

/-! ## The faults that are found -/

theorem resolveColumn_eq_error_iff {attr : String} :
    resolveColumn scope attr = .error error ↔
      (∀ column, ¬Means scope attr column) ∧
          error = .unknownColumn scope attr := by
  have means (column : Column) :
      Means scope attr column ↔ resolveColumn scope attr = .ok column :=
    resolveColumn_eq_ok_iff.symm
  simp only [means]
  unfold resolveColumn
  cases Column.ofAttribute? attr with
  | none => simp [@eq_comm _ error]
  | some column =>
      cases has : scope.hasColumn column <;> simp [has, @eq_comm _ error]

theorem storeValue_eq_error_iff {value : String} :
    storeValue converter column value = .error error ↔
      converter.toStore column value = none ∧
        error =
          .unsupported ("value '" ++ value ++ "' cannot be compared with " ++
              column.name) := by
  unfold storeValue
  cases converter.toStore column value <;> simp [@eq_comm _ error]

theorem storeText_eq_error_iff {fragment : String} :
    storeText converter column fragment = .error error ↔
      FragmentFault converter column fragment error := by
  unfold storeText storeValue
  cases written : converter.toStore column fragment with
  | none =>
      constructor
      · intro failed
        cases failed
        exact .declined written
      · intro faulty
        cases faulty with
        | declined => rfl
        | noText stored writes => cases written.symm.trans writes
  | some stored =>
      have notDeclined : converter.toStore column fragment ≠ none := by
        simp [written]
      constructor
      · intro failed
        cases stored with
        | text content => cases failed
        | null | integer | blob =>
            cases failed
            exact .noText _ written fun _ same => nomatch same
      · intro faulty
        cases faulty with
        | declined declines => exact absurd declines notDeclined
        | noText other writes noText =>
            cases written.symm.trans writes
            cases stored with
            | text content => exact absurd rfl (noText content)
            | null | integer | blob => rfl

theorem checkFragments_eq_error_iff {fragments : List String} :
    checkFragments converter column fragments = .error error ↔
      IsFirstFault (FragmentFault converter column) fragments error :=
  isFirstFault_of_walk rfl (fun _ _ => rfl) fun _ _ _ => storeText_eq_error_iff

theorem admitSubstring_eq_error_iff :
    admitSubstring column = .error error ↔
      ¬IsSearchable column ∧
          error = .unsupported ("substring match on " ++ column.name) := by
  unfold admitSubstring IsSearchable
  cases column.kind <;> simp [@eq_comm _ error]

/-- A leaf is refused exactly for what is wrong with it. -/
theorem check_leaf_eq_error_iff {leaf : Filter} (single : leaf.isLeaf = true) :
    leaf.check scope converter = .error error ↔
        LeafFault scope converter leaf error := by
  cases leaf with
  | equals attr value =>
      simp only [check, Answer.bind_eq_error_iff, resolveColumn_eq_error_iff,
        storeValue_eq_error_iff, resolveColumn_eq_ok_iff]
      constructor
      · rintro (⟨unknown, rfl⟩
          | ⟨column, means, ⟨declines, rfl⟩ | ⟨_, _, accepted⟩⟩)
        · exact .unknownColumn _ attr rfl unknown
        · exact .declined attr value column means declines
        · cases accepted
      · rintro (⟨_, _, named, unknown⟩ | ⟨_, _, column, means, declines⟩)
        · cases named
          exact Or.inl ⟨unknown, rfl⟩
        · exact Or.inr ⟨column, means, Or.inl ⟨declines, rfl⟩⟩
  | substring attr pattern =>
      simp only [check, Answer.bind_eq_error_iff, resolveColumn_eq_error_iff,
        admitSubstring_eq_error_iff, checkFragments_eq_error_iff,
        resolveColumn_eq_ok_iff, admitSubstring_eq_ok_iff]
      constructor
      · rintro (⟨unknown, rfl⟩
          | ⟨column, means, ⟨other, rfl⟩ | ⟨_, searchable, first⟩⟩)
        · exact .unknownColumn _ attr rfl unknown
        · exact .unsearchable attr pattern column means other
        · exact .fragment attr pattern column error means searchable first
      · rintro (⟨_, _, named, unknown⟩ | _ | ⟨_, _, column, means, other⟩ |
          ⟨_, _, column, _, means, searchable, first⟩)
        · cases named
          exact Or.inl ⟨unknown, rfl⟩
        · exact Or.inr ⟨column, means, Or.inl ⟨other, rfl⟩⟩
        · exact Or.inr ⟨column, means, Or.inr ⟨⟨⟩, searchable, first⟩⟩
  | present attr =>
      simp only [check, Answer.bind_eq_error_iff, resolveColumn_eq_error_iff]
      constructor
      · rintro (⟨unknown, rfl⟩ | ⟨_, _, accepted⟩)
        · exact .unknownColumn _ attr rfl unknown
        · cases accepted
      · rintro ⟨_, _, named, unknown⟩
        cases named
        exact Or.inl ⟨unknown, rfl⟩
  | greaterOrEqual attr value =>
      constructor
      · intro failed
        cases failed
        exact .greaterOrEqual attr value
      · rintro (⟨_, _, named, _⟩ | _)
        · cases named
        · rfl
  | lessOrEqual attr value =>
      constructor
      · intro failed
        cases failed
        exact .lessOrEqual attr value
      · rintro (⟨_, _, named, _⟩ | _)
        · cases named
        · rfl
  | approximate attr value =>
      constructor
      · intro failed
        cases failed
        exact .approximate attr value
      · rintro (⟨_, _, named, _⟩ | _)
        · cases named
        · rfl
  | extensible rule attr value =>
      constructor
      · intro failed
        cases failed
        exact .extensible rule attr value
      · rintro (⟨_, _, named, _⟩ | _)
        · cases named
        · rfl
  | and | or | not => cases single

/-! ## Leaf by leaf -/

mutual

theorem isLeaf_of_mem_leaves : ∀ (filter : Filter) {leaf : Filter},
    leaf ∈ filter.leaves → leaf.isLeaf = true
  | .and parts, _, member => isLeaf_of_mem_leavesAll parts member
  | .or parts, _, member => isLeaf_of_mem_leavesAll parts member
  | .not part, _, member => isLeaf_of_mem_leaves part member
  | .equals _ _, _, member | .substring _ _, _, member | .present _, _, member
  | .greaterOrEqual _ _, _, member | .lessOrEqual _ _, _, member
  | .approximate _ _, _, member | .extensible _ _ _, _, member => by
      cases List.mem_singleton.mp member
      rfl

theorem isLeaf_of_mem_leavesAll : ∀ (filters : List Filter) {leaf : Filter},
    leaf ∈ leavesAll filters → leaf.isLeaf = true
  | filter :: rest, _, member => by
      rcases List.mem_append.mp member with here | later
      · exact isLeaf_of_mem_leaves filter here
      · exact isLeaf_of_mem_leavesAll rest later

end

theorem checkAll_append (scope : EntityKind) (converter : Converter)
    (left right : List Filter) :
    checkAll scope converter (left ++ right) =
      checkAll scope converter left >>=
          fun _ => checkAll scope converter right := by
  induction left with
  | nil => rfl
  | cons filter rest inductionHypothesis =>
      rw [List.cons_append, checkAll, checkAll, inductionHypothesis]
      cases check scope converter filter <;> rfl

theorem checkAll_singleton (scope : EntityKind) (converter : Converter)
    (filter : Filter) :
    checkAll scope converter [filter] = filter.check scope converter := by
  rw [checkAll]
  cases check scope converter filter <;> rfl

mutual

/-- A filter is checked leaf by leaf. -/
theorem checkAll_leaves (scope : EntityKind) (converter : Converter) :
    ∀ filter : Filter,
    checkAll scope converter filter.leaves = filter.check scope converter
  | .and parts => by
      rw [leaves, check]
      exact checkAll_leavesAll scope converter parts
  | .or parts => by
      rw [leaves, check]
      exact checkAll_leavesAll scope converter parts
  | .not part => by
      rw [leaves, check]
      exact checkAll_leaves scope converter part
  | .equals attr value =>
      checkAll_singleton scope converter (.equals attr value)
  | .substring attr pattern =>
      checkAll_singleton scope converter (.substring attr pattern)
  | .present attr => checkAll_singleton scope converter (.present attr)
  | .greaterOrEqual attr value =>
      checkAll_singleton scope converter (.greaterOrEqual attr value)
  | .lessOrEqual attr value =>
      checkAll_singleton scope converter (.lessOrEqual attr value)
  | .approximate attr value =>
      checkAll_singleton scope converter (.approximate attr value)
  | .extensible rule attr value =>
      checkAll_singleton scope converter (.extensible rule attr value)

theorem checkAll_leavesAll (scope : EntityKind) (converter : Converter) :
    ∀ filters : List Filter,
    checkAll scope converter (leavesAll filters) =
      checkAll scope converter filters
  | [] => rfl
  | filter :: rest => by
      rw [leavesAll, checkAll_append, checkAll_leaves scope converter filter,
        checkAll_leavesAll scope converter rest, checkAll]

end

/-- The check of a filter fails for the first fault of its leaves. -/
theorem check_eq_error_iff {filter : Filter} :
    filter.check scope converter = .error error ↔
      IsFirstFault (LeafFault scope converter) filter.leaves error := by
  rw [← checkAll_leaves]
  apply isFirstFault_of_walk rfl fun _ _ => rfl
  exact fun leaf member _ =>
    check_leaf_eq_error_iff (isLeaf_of_mem_leaves filter member)

theorem check_eq_ok_iff {filter : Filter} :
    filter.check scope converter = .ok ⟨⟩ ↔
      ∃ condition, filter.condition scope converter = .ok condition := by
  rw [check_eq]
  cases filter.condition scope converter <;> simp [Except.map]

theorem condition_eq_error_iff {filter : Filter} :
    filter.condition scope converter = .error error ↔
      IsFirstFault (LeafFault scope converter) filter.leaves error := by
  rw [← check_eq_error_iff, check_eq]
  cases filter.condition scope converter <;> simp [Except.map]

/-- A filter for stored entities passes its check exactly if it becomes a
condition. Otherwise both are refused with the same error, that of the first
leaf from the left that has a fault. -/
theorem check_fails_as_condition (persisted : scope.isPersisted = true)
    (converter : Converter) (filter : Filter) :
    (filter.check scope converter = .ok ⟨⟩ ↔
        ∃ condition, filter.storedCondition scope converter = .ok condition) ∧
      ∀ error,
        (filter.check scope converter = .error error ↔
            IsFirstFault (LeafFault scope converter) filter.leaves error) ∧
          (filter.storedCondition scope converter = .error error ↔
            IsFirstFault (LeafFault scope converter) filter.leaves error) := by
  have stored :
      filter.storedCondition scope converter =
          filter.condition scope converter :=
    if_pos persisted
  rw [stored]
  exact ⟨check_eq_ok_iff, fun _ => ⟨check_eq_error_iff, condition_eq_error_iff⟩⟩

/-- A disjunction and a conjunction in it that would be decided by their first
parts, with two faults behind these. -/
def faultySample : Filter :=
  .or [.present "id", .not (.and [.or [], .equals "active" "maybe"]),
    .approximate "id" "x"]

theorem check_fails_as_condition_sample :
    faultySample.check .user .standard =
        .error (.unsupported "value 'maybe' cannot be compared with ACTIVE") ∧
      faultySample.storedCondition .user .standard =
        .error (.unsupported
            "value 'maybe' cannot be compared with ACTIVE") := by
  have sound : (present "id").check .user .standard = .ok ⟨⟩ := by
    decide +kernel
  have faulty : LeafFault .user .standard (.equals "active" "maybe")
      (.unsupported "value 'maybe' cannot be compared with ACTIVE") :=
    .declined "active" "maybe" .active ⟨by decide +kernel, rfl⟩
      (by decide +kernel)
  have first : IsFirstFault (LeafFault .user .standard) faultySample.leaves
      (.unsupported "value 'maybe' cannot be compared with ACTIVE") := by
    refine ⟨[.present "id"], .equals "active" "maybe", [.approximate "id" "x"],
      rfl, ?_, faulty⟩
    intro earlier member other wrong
    cases List.mem_singleton.mp member
    cases sound.symm.trans ((check_leaf_eq_error_iff rfl).mpr wrong)
  have persisted : EntityKind.user.isPersisted = true := rfl
  obtain ⟨_, failures⟩ :=
    check_fails_as_condition persisted .standard faultySample
  exact ⟨(failures _).1.mpr first, (failures _).2.mpr first⟩

end Filter

end CachedDirectory
