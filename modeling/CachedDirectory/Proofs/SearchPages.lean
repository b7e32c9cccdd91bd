import CachedDirectory.Proofs.AcceptedPages
import CachedDirectory.Proofs.JoinedTexts
import CachedDirectory.Proofs.Paging
import CachedDirectory.Proofs.StoredRecords

/-!
# Pages of a search

The rows of a kind that satisfy a condition, in the order of their keys, are
what the pages of a search are cut from: the first page at its offset, and every
other page after the key of the last row of the page before.
-/

namespace CachedDirectory

open Text

namespace Tables

variable {tables : Tables}

/-! ## What is read of a row -/

/-- What a reader receives of a row if the ids at the other ends of its edges
can be joined. -/
def result (tables : Tables) (row : EntityRow) : ResultRow :=
  shown row ((joinValues (tables.groupIds row)).toOption.getD .null)
    ((joinValues (tables.memberIds row)).toOption.getD .null)

theorem Sound.exists_id_of_mem_entityRows (sound : tables.Sound)
    {kind key : SqlValue} {row : EntityRow}
    (found : row ∈ tables.entityRows kind key) : ∃ id, row.id = .text id := by
  cases sound.isRecord row (List.mem_of_mem_filter found) with
  | group group => exact ⟨group.id, rfl⟩
  | user user => exact ⟨user.id, rfl⟩

/-- Every row of a sound store can be read. -/
theorem Sound.project_eq (sound : tables.Sound) (row : EntityRow) :
    tables.project row = .ok (tables.result row) := by
  have groups :
      ∀ value ∈ tables.groupIds row, ∃ content, value = .text content := by
    intro value listed
    obtain ⟨edge, _, atEdge⟩ := List.mem_flatMap.mp listed
    obtain ⟨group, found, rfl⟩ := List.mem_map.mp atEdge
    exact sound.exists_id_of_mem_entityRows found
  have members :
      ∀ value ∈ tables.memberIds row, ∃ content, value = .text content := by
    intro value listed
    obtain ⟨edge, _, atEdge⟩ := List.mem_flatMap.mp listed
    obtain ⟨member, found, rfl⟩ := List.mem_map.mp atEdge
    exact sound.exists_id_of_mem_entityRows found
  obtain ⟨memberOf, joinedGroups⟩ := exists_joinValues groups
  obtain ⟨memberIds, joinedMembers⟩ := exists_joinValues members
  rw [project, result, joinedGroups, joinedMembers]
  rfl

theorem Sound.projectAll_eq (sound : tables.Sound) (rows : List EntityRow) :
    tables.projectAll rows = .ok (rows.map tables.result) := by
  induction rows with
  | nil => rfl
  | cons row rest inductionHypothesis =>
      rw [projectAll, sound.project_eq, inductionHypothesis]
      rfl

theorem text?_id_key_result {row : EntityRow} {key : String}
    (cell : row.key = .text key) :
    (tables.result row).text? "id_key" = some key := by
  have found : (tables.result row).get? "id_key" = some row.key.received := rfl
  rw [ResultRow.text?, found, cell]
  rfl

/-! ## The rows that a search finds -/

/-- Whether the key of a row comes before that of another one. -/
def KeyBefore (left right : EntityRow) : Prop :=
  ∃ smaller larger,
    left.key = .text smaller ∧ right.key = .text larger ∧ smaller < larger

theorem le_of_keyBefore {left right : EntityRow}
    (before : KeyBefore left right) :
    left.key.le right.key = true := by
  obtain ⟨smaller, larger, leftKey, rightKey, less⟩ := before
  rw [leftKey, rightKey, SqlValue.text_le_text, decide_eq_true_iff]
  exact Std.le_of_lt less

theorem exceeds_of_keyBefore {left right : EntityRow}
    (before : KeyBefore left right) :
    (right.key.exceeds left.key).isYes = true ∧
        (left.key.exceeds right.key).isYes = false := by
  obtain ⟨smaller, larger, leftKey, rightKey, less⟩ := before
  rw [leftKey, rightKey]
  have notAfter : ¬larger ≤ smaller := fun le => String.not_le.mpr less le
  simp [notAfter, Std.le_of_lt less]

/-- The rows of a kind that satisfy a condition. -/
def matching (tables : Tables) (scope : EntityKind) (condition : Condition) :
    List EntityRow :=
  (tables.rowsOfKind (.text scope.name)).filter fun row =>
    (condition.holds tables row).isYes

variable {scope : EntityKind} {condition : Condition}

/-- The rows after a row are those with greater keys. -/
theorem filter_exceeds {done rest : List EntityRow} {row : EntityRow}
    {key : String} (ordered : (done ++ row :: rest).Pairwise KeyBefore)
    (cell : row.key = .text key) :
    (done ++ row :: rest).filter
        (fun other => (other.key.exceeds (.text key)).isYes) = rest := by
  obtain ⟨_, later, across⟩ := List.pairwise_append.mp ordered
  obtain ⟨after, _⟩ := List.pairwise_cons.mp later
  have dropped :
      done.filter (fun other =>
          (other.key.exceeds (.text key)).isYes) = [] := by
    apply List.filter_eq_nil_iff.mpr
    intro other member
    rw [← cell,
      (exceeds_of_keyBefore (across other member row List.mem_cons_self)).2]
    decide
  have kept :
      rest.filter (fun other => (other.key.exceeds (.text key)).isYes) =
          rest := by
    apply List.filter_eq_self.mpr
    intro other member
    rw [← cell]
    exact (exceeds_of_keyBefore (after other member)).1
  have itself : (row.key.exceeds (.text key)).isYes = false := by
    rw [cell]
    simp
  rw [List.filter_append, List.filter_cons, dropped, kept, itself]
  rfl

/-- The first page of a window is cut from the rows that the search finds. -/
theorem entityRows_first
    (ordered : (tables.matching scope condition).Pairwise KeyBefore)
    (window : Window) :
    SearchPage.entityRows ⟨scope, condition, none, window⟩ tables =
      Window.cut (some window) (tables.matching scope condition) := by
  have found :
      tables.entities.filter
        (SearchPage.selects ⟨scope, condition, none, window⟩ tables) =
        tables.matching scope condition := by
    rw [matching, rowsOfKind, List.filter_filter]
    apply List.filter_congr
    intro row _
    rw [SearchPage.selects, SearchPage.concerns, Truth.isYes_yes, Bool.and_true,
      Bool.and_comm]
  rw [SearchPage.entityRows, found,
    List.mergeSort_of_pairwise
      (ordered.imp fun before => le_of_keyBefore before)]

/-- A page after the key of a row goes on where that row stands. -/
theorem entityRows_next
    (ordered : (tables.matching scope condition).Pairwise KeyBefore)
    {done rest : List EntityRow} {row : EntityRow} {key : String}
    (cell : row.key = .text key)
    (split : tables.matching scope condition = done ++ row :: rest)
    (length : Nat) :
    SearchPage.entityRows ⟨scope, condition, some key, ⟨0, length⟩⟩ tables =
        rest.take length := by
  have found : tables.entities.filter
      (SearchPage.selects ⟨scope, condition, some key, ⟨0, length⟩⟩ tables) =
          rest := by
    rw [split] at ordered
    rw [← filter_exceeds ordered cell, ←
      split, matching, rowsOfKind, List.filter_filter, List.filter_filter]
    apply List.filter_congr
    intro other _
    rw [SearchPage.selects, SearchPage.concerns]
    cases (other.kind.equals (.text scope.name)).isYes <;>
      cases (other.key.exceeds (.text key)).isYes <;>
        cases (condition.holds tables other).isYes <;> rfl
  rw [split] at ordered
  obtain ⟨_, later, _⟩ := List.pairwise_append.mp ordered
  have sorted := (List.pairwise_cons.mp later).2
  rw [SearchPage.entityRows, found,
    List.mergeSort_of_pairwise
      (sorted.imp fun before => le_of_keyBefore before)]
  rfl

end Tables

/-- Whether every page of a search with a condition is within the limits of the
store. -/
def Condition.Fits (scope : EntityKind) (condition : Condition) : Prop :=
  ∀ after window, SearchPage.IsWithinLimits ⟨scope, condition, after, window⟩

/-- A condition fits if it leaves room for the rest of the statement. -/
theorem Condition.fits_of_room {condition : Condition}
    (height :
      max 3 condition.height + condition.innerHeight + 2 ≤
        Statement.heightBound)
    (values : condition.values.length + 4 ≤ Statement.valueBound)
    (edges : condition.edgesCount + 2 ≤ Statement.edgesBound)
    (patterns : condition.HasShortPatterns) (scope : EntityKind) :
    condition.Fits scope := by
  intro after window
  refine ⟨⟨?_, ?_, edges⟩, patterns⟩
  · rw [SearchPage.height, SearchPage.outerHeight]
    dsimp only
    split <;> omega
  · rw [SearchPage.valueCount]
    dsimp only
    split <;> omega

/-- The pages of a search are parts of what it finds. -/
theorem Tables.Sound.reads {tables : Tables} (sound : tables.Sound)
    {scope : EntityKind} {condition : Condition} (fits : condition.Fits scope)
    (ordered : (tables.matching scope condition).Pairwise KeyBefore) :
    PageFeed.Reads (searchSource .standard scope condition) tables
      ((tables.matching scope condition).map tables.result) where
  first window := by
    show SearchPage.rows ⟨scope, condition, none, window⟩ tables = _
    rw [SearchPage.rows_eq (fits none window), sound.projectAll_eq,
      entityRows_first ordered, Window.cut, List.map_take, List.map_drop]
  next done last rest length split := by
    obtain ⟨before, others, whole, _, later⟩ := List.map_eq_append_iff.mp split
    obtain ⟨row, after, rfl, rfl, rfl⟩ := List.map_eq_cons_iff.mp later
    have stored : row ∈ tables.entities := by
      have member : row ∈ tables.matching scope condition := by simp [whole]
      exact List.mem_of_mem_filter (List.mem_of_mem_filter member)
    have key : ∃ key, row.key = .text key := by
      cases sound.isRecord row stored <;> exact ⟨_, rfl⟩
    obtain ⟨key, cell⟩ := key
    show SearchPage.rows
      ⟨scope, condition,
        (some (tables.result row)).bind fun row =>
          row.text? "id_key", ⟨0, length⟩⟩
      tables = _
    rw [Option.bind_some, text?_id_key_result cell,
      SearchPage.rows_eq (fits _ _), sound.projectAll_eq,
      entityRows_next ordered cell whole, List.map_take]

end CachedDirectory
