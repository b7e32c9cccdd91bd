import CachedDirectory.Proofs.KeysetPages
import CachedDirectory.Proofs.SyncSteps

/-!
# Results that are read in pages

A feed gives the rows of a result as if they were read at one go, if each page
goes on where the page before ended. It ends after the last of them, and what it
may still read is always what its window allows less what was read. Rows in the
order of their keys are read in this way, if a page after a row holds the first
of the rows with later keys.
-/

namespace CachedDirectory

/-- If each row can be read, all of them can be read at one go. -/
theorem Answer.exists_mapM {α ρ : Type} {read : ρ → Answer α}
    {relation : ρ → α → Prop} {rows : List ρ}
    (each : ∀ row ∈ rows, ∃ item, read row = .ok item ∧ relation row item) :
    ∃ items, rows.mapM read = .ok items ∧ List.Forall₂ relation rows items := by
  induction rows with
  | nil => exact ⟨[], rfl, .nil⟩
  | cons row rest inductionHypothesis =>
      obtain ⟨item, here, related⟩ := each row List.mem_cons_self
      obtain ⟨items, later, others⟩ :=
        inductionHypothesis fun other member =>
          each other (List.mem_cons_of_mem row member)
      refine ⟨item :: items, ?_, .cons related others⟩
      rw [List.mapM_cons, here, later]
      rfl

theorem Window.cut_map {α β : Type} (window : Option Window) (f : α → β)
    (items : List α) :
    cut window (items.map f) = (cut window items).map f := by
  cases window with
  | none => rfl
  | some part => rw [cut, cut, List.map_take, List.map_drop]

theorem Window.mem_of_mem_cut {α : Type} {item : α} {items : List α}
    {window : Option Window} (member : item ∈ cut window items) :
    item ∈ items := by
  cases window with
  | none => exact member
  | some part => exact List.mem_of_mem_drop (List.mem_of_mem_take member)

namespace PageFeed

variable {α ρ : Type} {replica : Replica} {results left : List ResultRow}
  {feed : PageFeed α}

/-- What is left of a feed when some rows have been taken from it, if there are
so many. -/
def after? (replica : Replica) : Nat → PageFeed α → Option (PageFeed α)
  | 0, feed => some feed
  | count + 1, feed =>
      (feed.pull replica).bind fun (_, rest) => after? replica count rest

/-- Whether a feed gives what is read of rows, one after the other, and then
ends. Of the rows that it may give, those that it gave and those that it may
still give are always all, none counted twice. -/
structure Yields (replica : Replica) (feed : PageFeed α) (read : ρ → Answer α)
    (rows : List ρ) (limit : Option Nat) : Prop where
  drain : (EntryCursor.paged (.ofFeed feed)).drain replica = rows.mapM read
  ends : ∀ count, feed.after? replica count = none ↔ rows.length < count
  counts : ∀ count rest, feed.after? replica count = some rest →
    rest.unspent.map (· + count) = limit

theorem Stands.after?_eq_none_iff (stands : Stands replica results feed left)
    (readable : replica.readTables = .ok replica.tables) (count : Nat) :
    feed.after? replica count = none ↔ left.length < count := by
  induction count generalizing feed left with
  | zero => simp [after?]
  | succ count inductionHypothesis =>
      rw [after?]
      rcases stands.pull readable with
          ⟨rfl, ends⟩ | ⟨row, rest, after, rfl, taken, next, _⟩
      · rw [ends]
        simp
      · rw [taken, Option.bind_some, inductionHypothesis next, List.length_cons]
        omega

theorem Stands.unspent_after? (stands : Stands replica results feed left)
    (readable : replica.readTables = .ok replica.tables) {count : Nat}
    {rest : PageFeed α} (reached : feed.after? replica count = some rest) :
    rest.unspent.map (· + count) = feed.unspent := by
  induction count generalizing feed left with
  | zero =>
      cases reached
      simp
  | succ count inductionHypothesis =>
      rw [after?] at reached
      rcases stands.pull readable with
          ⟨_, ends⟩ | ⟨_, _, after, _, taken, next, _, unspent⟩
      · rw [ends] at reached
        cases reached
      · rw [taken, Option.bind_some] at reached
        rw [unspent, ← inductionHypothesis next reached, Option.map_map]
        rfl

theorem Stands.yields (stands : Stands replica results feed left)
    (readable : replica.readTables = .ok replica.tables)
    (bounded :
      results.length ≤
        replica.tables.entities.length + replica.tables.edges.length) :
    feed.Yields replica feed.source.decode left feed.unspent where
  drain := stands.drain readable bounded
  ends := stands.after?_eq_none_iff readable
  counts _ _ := stands.unspent_after? readable

/-- A feed whose next page is refused gives the rows that wait and then
fails. -/
theorem drainWithin_of_refused {length : Nat} {error : DirectoryError}
    (follows : feed.following = some length)
    (refused :
      (replica.readTables >>= feed.source.page feed.last ⟨0, length⟩) =
        .error error)
    (decodes : ∀ row ∈ feed.waiting, ∃ item, feed.source.decode row = .ok item)
    {position : Position α} (usable : StreamCursor.IsUsable position)
    {moves : Nat} (enough : feed.waiting.length < moves) :
    ((EntryCursor.pageMethods replica).drainWithin moves
      ⟨some feed, position⟩).1 =
      .error error := by
  induction moves generalizing feed position with
  | zero => exact absurd enough (Nat.not_lt_zero _)
  | succ moves inductionHypothesis =>
      cases waiting : feed.waiting with
      | nil =>
          have taken : feed.pull replica = some (.error error, feed) := by
            simp only [PageFeed.pull, waiting, follows, refused]
          have fails :
              (EntryCursor.pageMethods replica).next ⟨some feed, position⟩ =
                (.error error, ⟨none, .exhausted⟩) :=
                StreamCursor.next_of_error usable taken
          rw [CursorMethods.drainWithin, fails]
      | cons row others =>
          rw [waiting] at decodes enough
          obtain ⟨item, decoded⟩ := decodes row List.mem_cons_self
          have taken :
              feed.pull replica =
                  some (.ok item, { feed with waiting := others }) := by
            simp only [PageFeed.pull, take?, waiting, decoded]
          have advances :
              (EntryCursor.pageMethods replica).next ⟨some feed, position⟩ =
                (.ok true, ⟨some { feed with waiting := others }, .on item⟩) :=
            StreamCursor.next_of_some usable taken
          have failed :=
            @inductionHypothesis { feed with waiting := others } follows refused
            (fun other member =>
              decodes other (List.mem_cons_of_mem row member)) _
            (Or.inr ⟨item, rfl⟩) (Nat.lt_of_succ_lt_succ enough)
          rw [CursorMethods.drainWithin_of_next advances rfl, failed]
          rfl

/-- If the rows in a window do not come on the first page, and every later page
is refused, a cursor over them fails. -/
theorem drain_start_of_refused {source : PageSource α} {window : Option Window}
    {error : DirectoryError} (buffered : 0 < replica.bufferSize)
    (readable : replica.readTables = .ok replica.tables)
    (fills : replica.bufferSize ≤ (Window.cut window results).length)
    (beyond : ∀ part ∈ window, replica.bufferSize < part.limit)
    (first :
      source.page none ⟨skipped window, firstLength window replica⟩
          replica.tables =
        .ok ((results.drop (skipped window)).take (firstLength window replica)))
    (decodes : ∀ row ∈ results, ∃ item, source.decode row = .ok item)
    (refused :
      ∀ row ∈ results,
        ∀ length,
          source.page (some row) ⟨0, length⟩ replica.tables = .error error) :
    ∃ feed, start source window replica = .ok feed ∧
      (EntryCursor.paged (.ofFeed feed)).drain replica = .error error := by
  let page := (results.drop (skipped window)).take (firstLength window replica)
  have listed : ∀ row ∈ page, row ∈ results :=
    fun _ member => List.mem_of_mem_drop (List.mem_of_mem_take member)
  have follows :=
    (@follows_first_iff _ _ source _ _ buffered).mpr ⟨fills, beyond⟩
  have full : ¬page.length < firstLength window replica := fun short =>
    following_turn_ne_none_iff.mp follows (Or.inl short)
  have asked : 0 < firstLength window replica := by
    cases window with
    | none => exact buffered
    | some part =>
        have more := beyond part rfl
        show 0 < min part.limit replica.bufferSize
        omega
  have nonempty : page ≠ [] := List.ne_nil_of_length_pos (by omega)
  have last : page.getLast? = some (page.getLast nonempty) :=
    List.getLast?_eq_some_getLast _
  obtain ⟨length, follows⟩ := Option.ne_none_iff_exists'.mp follows
  refine ⟨_, start_eq_ok (Nat.ne_of_gt asked) readable first, ?_⟩
  apply drainWithin_of_refused follows
  · rw [readable]
    show source.page page.getLast? ⟨0, length⟩ replica.tables = _
    rw [last]
    exact refused _ (listed _ (List.getLast_mem nonempty)) length
  · exact fun row member => decodes row (listed row member)
  · exact Or.inl rfl
  · exact Nat.lt_succ_of_le (Nat.le_add_right _ _)

end PageFeed

namespace Keyset

variable {ρ κ α : Type} {keyset : Keyset ρ κ α} {tables : Tables}

instance (left right : SqlValue) : Decidable (left.Before right) :=
  inferInstanceAs (Decidable (_ ∧ _))

instance (left right : EdgeRow) : Decidable (left.Before right) :=
  inferInstanceAs (Decidable (_ ∧ _))

/-- Whether rows are those that are there to be read, each once and in the order
of their keys. -/
structure Lists (keyset : Keyset ρ κ α) (tables : Tables) (rows : List ρ) :
    Prop where
  mem_iff : ∀ row, row ∈ rows ↔ row ∈ keyset.found tables
  increasing : (rows.map keyset.keyOf).Pairwise keyset.before

/-- Rows in the order of their keys are told by which rows they are. -/
theorem IsOrdered.eq_of_increasing (ordered : keyset.IsOrdered)
    {left right : List ρ}
    (leftIncreasing : (left.map keyset.keyOf).Pairwise keyset.before)
    (rightIncreasing : (right.map keyset.keyOf).Pairwise keyset.before)
    (same : ∀ row, row ∈ left ↔ row ∈ right) : left = right := by
  rw [List.pairwise_map] at leftIncreasing rightIncreasing
  have different {first second : ρ}
      (before : keyset.before (keyset.keyOf first) (keyset.keyOf second)) :
          first ≠ second := by
    rintro rfl
    exact ordered.irrefl _ before
  have perm : left.Perm right :=
    (List.perm_ext_iff_of_nodup (leftIncreasing.imp different)
      (rightIncreasing.imp different)).mpr same
  refine perm.eq_of_pairwise ?_ leftIncreasing rightIncreasing
  intro first second _ _ before after
  exact absurd (ordered.trans before after) (ordered.irrefl _)

/-- A page after a row goes on where the row stands if it holds the first of the
rows with later keys. -/
theorem Lists.goesOn {rows : List ρ} (lists : keyset.Lists tables rows)
    (ordered : keyset.IsOrdered) (later : ρ → List ρ) {longest : Nat}
    (increasing : ∀ row, ((later row).map keyset.keyOf).Pairwise keyset.before)
    (mem_later :
      ∀ row ∈ keyset.found tables,
        ∀ other,
          other ∈ later row ↔
            other ∈ keyset.found tables ∧
              keyset.before (keyset.keyOf row) (keyset.keyOf other))
    (page :
      ∀ row ∈ keyset.found tables,
        ∀ length ≤ longest,
          keyset.source.page (some (keyset.result tables row))
              ⟨0, length⟩ tables =
            .ok (((later row).take length).map (keyset.result tables))) :
    PageFeed.GoesOn keyset.source tables (rows.map (keyset.result tables))
        longest := by
  intro done last rest length short split
  obtain ⟨before, others, rfl, _, suffix⟩ := List.map_eq_append_iff.mp split
  obtain ⟨row, after, rfl, rfl, rfl⟩ := List.map_eq_cons_iff.mp suffix
  have found : row ∈ keyset.found tables := (lists.mem_iff row).mp (by simp)
  have increasingAll := lists.increasing
  rw [List.map_append, List.map_cons] at increasingAll
  obtain ⟨_, fromRow, across⟩ := List.pairwise_append.mp increasingAll
  obtain ⟨afterRow, increasingAfter⟩ := List.pairwise_cons.mp fromRow
  have same : later row = after := by
    refine ordered.eq_of_increasing (increasing row) increasingAfter ?_
    intro other
    rw [mem_later row found, ← lists.mem_iff]
    constructor
    · rintro ⟨member, greater⟩
      rcases List.mem_append.mp member with earlier | atRow
      · have less := across _ (List.mem_map_of_mem earlier) _ List.mem_cons_self
        exact absurd (ordered.trans less greater) (ordered.irrefl _)
      · rcases List.mem_cons.mp atRow with rfl | member
        · exact absurd greater (ordered.irrefl _)
        · exact member
    · intro member
      exact ⟨by simp [member], afterRow _ (List.mem_map_of_mem member)⟩
  rw [page row found length short, same, List.map_take]

/-- Rows in the order of their keys are given in pages as their window cuts them
out, whatever the length of a page. -/
theorem Lists.exists_yields {rows : List ρ} (lists : keyset.Lists tables rows)
    {replica : Replica} (buffered : 0 < replica.bufferSize)
    (readable : replica.readTables = .ok tables) (window : Option Window)
    (bounded : rows.length ≤ tables.entities.length + tables.edges.length)
    (first :
      PageFeed.firstLength window replica ≠ 0 →
        keyset.source.page none
            ⟨PageFeed.skipped window, PageFeed.firstLength window replica⟩
            tables =
          .ok (((rows.drop (PageFeed.skipped window)).take
            (PageFeed.firstLength window replica)).map (keyset.result tables)))
    (goesOn :
      replica.bufferSize ≤ (Window.cut window rows).length →
        (∀ part ∈ window, replica.bufferSize < part.limit) →
        PageFeed.GoesOn keyset.source tables (rows.map (keyset.result tables))
          replica.bufferSize) :
    ∃ feed, PageFeed.start keyset.source window replica = .ok feed ∧
      feed.source = keyset.source ∧
        feed.Yields replica
          (fun row => keyset.source.decode (keyset.result tables row))
          (Window.cut window rows) (window.map (·.limit)) := by
  obtain rfl := Replica.tables_of_readTables readable
  rw [List.map_take, List.map_drop] at first
  rw [← List.length_map (keyset.result replica.tables), ←
    Window.cut_map] at goesOn
  rw [← List.length_map (keyset.result replica.tables)] at bounded
  obtain ⟨feed, started, source, stands, unspent⟩ :=
    PageFeed.exists_stands_start window buffered readable first goesOn
  have yields := stands.yields readable bounded
  rw [unspent, source, Window.cut_map] at yields
  refine ⟨feed, started, source, ?_, ?_, yields.counts⟩
  · rw [yields.drain, List.mapM_map]
    rfl
  · intro count
    rw [yields.ends, List.length_map]

end Keyset

end CachedDirectory
