import CachedDirectory.Replica.Feed
import Mathlib.Data.List.Forall2

/-!
# Drained cursors

What a cursor gives when it is drained: a cursor over a list gives the list, and
a cursor over pages gives the part of the result that its window cuts out,
whatever the length of a page.
-/

namespace CachedDirectory

namespace CursorMethods

variable {γ α : Type} {methods : CursorMethods γ α}

/-- Whether a cursor gives these entries, one after the other, and then
nothing. -/
inductive Gives (methods : CursorMethods γ α) : γ → List α → Prop
  | nothing {cursor moved : γ}
      (stops : methods.next cursor = (.ok false, moved)) :
      Gives methods cursor []
  | entry {cursor moved : γ} {item : α} {items : List α}
      (advances : methods.next cursor = (.ok true, moved))
      (here : (methods.position moved).get = .ok item)
        (later : Gives methods moved items) :
      Gives methods cursor (item :: items)

theorem drainWithin_of_next {cursor moved : γ} {item : α}
    (advances : methods.next cursor = (.ok true, moved))
    (here : (methods.position moved).get = .ok item) (moves : Nat) :
    (methods.drainWithin (moves + 1) cursor).1 =
      (methods.drainWithin moves moved).1.map (item :: ·) := by
  rw [CursorMethods.drainWithin, advances]
  dsimp only
  rw [here]
  rcases methods.drainWithin moves moved with ⟨items | error, drained⟩ <;> rfl

theorem Gives.drainWithin {cursor : γ} {items : List α} {moves : Nat}
    (gives : methods.Gives cursor items) (enough : items.length < moves) :
    (methods.drainWithin moves cursor).1 = .ok items := by
  induction gives generalizing moves with
  | nothing stops =>
      cases moves with
      | zero => exact absurd enough (Nat.not_lt_zero _)
      | succ moves => rw [CursorMethods.drainWithin, stops]
  | entry advances here later inductionHypothesis =>
      cases moves with
      | zero => exact absurd enough (Nat.not_lt_zero _)
      | succ moves =>
          have drained := inductionHypothesis (Nat.lt_of_succ_lt_succ enough)
          rw [drainWithin_of_next advances here, drained]
          rfl

theorem Gives.drain {cursor : γ} {items : List α}
    (gives : methods.Gives cursor items)
    (bounded : items.length ≤ methods.extent cursor) :
    (methods.drain cursor).1 = .ok items :=
  gives.drainWithin (Nat.lt_succ_of_le bounded)

end CursorMethods

namespace ListCursor

variable {α : Type}

end ListCursor

namespace StreamCursor

variable {φ α : Type} {pull : φ → Option (Answer α × φ)}

/-- Whether a cursor at a position still takes from its feed. -/
def IsUsable (position : Position α) : Prop :=
  position = .before ∨ ∃ item, position = .on item

theorem next_of_none {feed : φ} {position : Position α}
    (usable : IsUsable position) (ends : pull feed = none) :
    next pull ⟨some feed, position⟩ = (.ok false, ⟨none, .exhausted⟩) := by
  rcases usable with rfl | ⟨item, rfl⟩ <;> simp [next, ends]

theorem next_of_some {feed rest : φ} {position : Position α} {item : α}
    (usable : IsUsable position) (taken : pull feed = some (.ok item, rest)) :
    next pull ⟨some feed, position⟩ = (.ok true, ⟨some rest, .on item⟩) := by
  rcases usable with rfl | ⟨item, rfl⟩ <;> simp [next, taken]

theorem next_of_error {feed rest : φ} {position : Position α}
    {error : DirectoryError} (usable : IsUsable position)
    (taken : pull feed = some (.error error, rest)) :
    next pull ⟨some feed, position⟩ = (.error error, ⟨none, .exhausted⟩) := by
  rcases usable with rfl | ⟨item, rfl⟩ <;> simp [next, taken]

end StreamCursor

/-! ## Feeds -/

namespace PageFeed

variable {α : Type}

theorem lengthWithin_le (pageLength : Nat) (allowance : Option Nat) :
    lengthWithin pageLength allowance ≤ pageLength := by
  cases allowance with
  | none => exact Nat.le_refl pageLength
  | some count => exact Nat.min_le_right count pageLength

/-- The first of some rows, as many as may still be read. -/
def within (allowance : Option Nat) (rows : List ResultRow) : List ResultRow :=
  match allowance with
  | some count => rows.take count
  | none => rows

/-- Whether the pages of a source are parts of a result: the first page of any
window is cut from it, and a page after a row goes on where that row stands. -/
structure Reads (source : PageSource α) (tables : Tables)
    (results : List ResultRow) : Prop where
  first : ∀ window : Window,
    source.page none window tables =
      .ok ((results.drop window.offset).take window.limit)
  next :
    ∀ (done : List ResultRow) (row : ResultRow) (rest : List ResultRow)
      (length : Nat),
    results = done ++ row :: rest →
      source.page (some row) ⟨0, length⟩ tables = .ok (rest.take length)

/-- Whether pages that are not longer than told go on in a result where a row
stands. -/
def GoesOn (source : PageSource α) (tables : Tables) (results : List ResultRow)
    (longest : Nat) :
    Prop :=
  ∀ (done : List ResultRow) (row : ResultRow) (rest : List ResultRow)
    (length : Nat),
    length ≤ longest → results = done ++ row :: rest →
      source.page (some row) ⟨0, length⟩ tables = .ok (rest.take length)

/-- Whether a feed of a result stands where these rows are left: those that are
waiting, and as many of the others as may be read. Unless nothing more may be
read, it knows the last row before them. -/
structure Stands (replica : Replica) (results : List ResultRow)
    (feed : PageFeed α) (left : List ResultRow) : Prop where
  goesOn :
    feed.following ≠ none →
      GoesOn feed.source replica.tables results feed.pageLength
  buffered : 0 < feed.pageLength
  parts : ∃ done rest, results = done ++ feed.waiting ++ rest ∧
    left = feed.waiting ++ within feed.allowance rest ∧
      match feed.following with
      | none => within feed.allowance rest = []
      | some length =>
          length = lengthWithin feed.pageLength feed.allowance ∧ 0 < length ∧
            ∃ before row,
              done ++ feed.waiting = before ++ [row] ∧ feed.last = some row

theorem Reads.goesOn {source : PageSource α} {tables : Tables}
    {results : List ResultRow} (reads : Reads source tables results)
    (longest : Nat) :
    GoesOn source tables results longest :=
  fun done row rest length _ => reads.next done row rest length

variable {replica : Replica} {results left : List ResultRow} {feed : PageFeed α}

theorem within_nil (allowance : Option Nat) : within allowance [] = [] := by
  cases allowance with
  | none => rfl
  | some count => exact List.take_nil

/-- If the next page would be empty, nothing more may be read. -/
theorem within_of_spent {allowance : Option Nat} {pageLength : Nat}
    (buffered : 0 < pageLength) (spent : lengthWithin pageLength allowance = 0)
    (rows : List ResultRow) :
    within allowance rows = [] := by
  cases allowance with
  | none => exact absurd spent (Nat.ne_of_gt buffered)
  | some count =>
      have nothing : count = 0 := by
        change min count pageLength = 0 at spent
        omega
      rw [nothing]
      rfl

/-- The rows that may be read are those of the next page and those that may be
read after it. -/
theorem within_eq_take_append {allowance : Option Nat} {pageLength length : Nat}
    (sized : length = lengthWithin pageLength allowance)
    (rest : List ResultRow) :
    within allowance rest =
      rest.take length ++
        within (allowance.map (· - (rest.take length).length))
            (rest.drop length) := by
  cases allowance with
  | none => exact (List.take_append_drop length rest).symm
  | some count =>
      have atMost : length ≤ count := sized ▸ Nat.min_le_left count pageLength
      show rest.take count =
        rest.take length ++ (rest.drop length).take (count - _)
      rw [List.length_take]
      by_cases short : rest.length ≤ length
      · rw [List.drop_eq_nil_of_le short, List.take_nil, List.append_nil,
          List.take_of_length_le short,
          List.take_of_length_le (Nat.le_trans short atMost)]
      · rw [Nat.min_eq_left (by omega), ←
          List.take_add, Nat.add_sub_cancel' atMost]

/-- How many rows a feed may still give, if that is bounded. -/
def unspent (feed : PageFeed α) : Option Nat :=
  feed.allowance.map (· + feed.waiting.length)

/-- Reading a page only moves rows from those that may be read to those that
wait: a page is not longer than what was asked for, and no more is asked for
than may be read. -/
theorem unspent_turn {rows : List ResultRow} {length : Nat}
    (sized : length = lengthWithin feed.pageLength feed.allowance)
    (short : rows.length ≤ length) :
    (feed.turn length rows).unspent = feed.allowance := by
  rw [unspent, turn]
  dsimp only
  cases known : feed.allowance with
  | none => rfl
  | some count =>
      have atMost : length ≤ count := by
        rw [known] at sized
        exact sized ▸ Nat.min_le_left count feed.pageLength
      have exact : count - rows.length + rows.length = count :=
        Nat.sub_add_cancel (by omega)
      exact congrArg some exact

/-- A page that was read is waiting, and the next one follows it. -/
theorem stands_turn {done rest : List ResultRow} {length : Nat}
    (goesOn :
      (feed.turn length (rest.take length)).following ≠ none →
        GoesOn feed.source replica.tables results feed.pageLength)
    (buffered : 0 < feed.pageLength) (split : results = done ++ rest)
    (sized : length = lengthWithin feed.pageLength feed.allowance)
    (positive : 0 < length) :
    Stands replica results (feed.turn length (rest.take length))
        (within feed.allowance rest) := by
  refine ⟨goesOn, buffered, done, rest.drop length, ?_,
    within_eq_take_append sized rest, ?_⟩
  · rw [split, List.append_assoc]
    exact congrArg _ (List.take_append_drop length rest).symm
  · dsimp only [turn]
    by_cases stops :
      (rest.take length).length < length ∨ lengthWithin feed.pageLength
        (feed.allowance.map (· - (rest.take length).length)) = 0
    · rw [if_pos stops]
      rcases stops with short | spent
      · rw [List.length_take] at short
        rw [List.drop_eq_nil_of_le (by omega)]
        exact within_nil _
      · exact within_of_spent buffered spent _
    · rw [if_neg stops]
      obtain ⟨full, unspent⟩ := not_or.mp stops
      refine ⟨rfl, Nat.pos_of_ne_zero unspent, ?_⟩
      rcases List.eq_nil_or_concat (rest.take length) with
          nothing | ⟨before, row, page⟩
      · rw [nothing] at full
        exact absurd positive full
      · rw [List.concat_eq_append] at page
        refine ⟨done ++ before, row, ?_, ?_⟩
        · rw [page, List.append_assoc]
        · rw [page, List.getLast?_concat]

/-- When the first waiting row is taken, the others are left. -/
theorem Stands.take {row : ResultRow} {others : List ResultRow}
    (stands : Stands replica results feed left)
    (waiting : feed.waiting = row :: others) :
    ∃ rest,
        left = row :: rest ∧
            Stands replica results { feed with waiting := others } rest := by
  obtain ⟨goesOn, buffered, done, rest, whole, remains, next⟩ := stands
  rw [waiting] at whole remains next
  have moved : done ++ row :: others = done ++ [row] ++ others := by simp
  refine ⟨others ++ within feed.allowance rest, remains, goesOn, buffered,
    done ++ [row], rest, ?_,
    rfl, ?_⟩
  · rw [whole, moved]
  · rw [← moved]
    exact next

theorem unspent_take {row : ResultRow} {others : List ResultRow}
    (waiting : feed.waiting = row :: others) :
    feed.unspent = { feed with waiting := others }.unspent.map (· + 1) := by
  rw [unspent, unspent, waiting, Option.map_map]
  rfl

/-- What is taken from a feed next: nothing if no rows are left, else the first
of them, from the next page if none is waiting. -/
theorem Stands.pull (stands : Stands replica results feed left)
    (readable : replica.readTables = .ok replica.tables) :
    (left = [] ∧ feed.pull replica = none) ∨
      ∃ row rest after, left = row :: rest ∧
        feed.pull replica = some (feed.source.decode row, after) ∧
          Stands replica results after rest ∧ after.source = feed.source ∧
            feed.unspent = after.unspent.map (· + 1) := by
  cases waiting : feed.waiting with
  | cons row others =>
      obtain ⟨rest, remains, after⟩ := stands.take waiting
      refine Or.inr ⟨row, rest, _, remains, ?_, after, rfl,
        unspent_take waiting⟩
      simp only [PageFeed.pull, take?, waiting]
  | nil =>
      obtain ⟨goesOn, buffered, done, rest, whole, remains, next⟩ := stands
      rw [waiting, List.append_nil] at whole
      rw [waiting, List.nil_append] at remains
      cases following : feed.following with
      | none =>
          rw [following] at next
          refine Or.inl ⟨remains.trans next, ?_⟩
          simp only [PageFeed.pull, waiting, following]
      | some length =>
          rw [following, waiting, List.append_nil] at next
          obtain ⟨sized, positive, before, last, ended, known⟩ := next
          have pages :
              GoesOn feed.source replica.tables results feed.pageLength :=
            goesOn (by simp [following])
          have page :
              (replica.readTables >>= feed.source.page feed.last ⟨0, length⟩) =
                .ok (rest.take length) := by
            rw [readable, known]
            apply pages before _ _ _ (sized ▸ lengthWithin_le _ _)
            rw [whole, ended, List.append_assoc]
            rfl
          have pulled :
              feed.pull replica =
                  (feed.turn length (rest.take length)).take? := by
            simp only [PageFeed.pull, waiting, following, page]
          have turned :=
            stands_turn (fun _ => pages) buffered whole sized positive
          have counted := unspent_turn sized (List.length_take_le length rest)
          rw [← remains] at turned
          cases taken : rest.take length with
          | nil =>
              have nothing : rest = [] := by
                rcases List.take_eq_nil_iff.mp taken with none | empty
                · exact absurd none (Nat.ne_of_gt positive)
                · exact empty
              refine Or.inl ⟨?_, ?_⟩
              · rw [remains, nothing, within_nil]
              · rw [pulled, taken]
                rfl
          | cons row others =>
              have first :
                  (feed.turn length (rest.take length)).waiting =
                      row :: others :=
                taken
              obtain ⟨later, remains, after⟩ := turned.take first
              refine Or.inr ⟨row, later, _, remains, ?_, after, rfl, ?_⟩
              · rw [pulled, take?, first]
                rfl
              · rw [← unspent_take first, counted, unspent, waiting]
                simp

/-- What is left in a feed is read at one go, up to the first row that cannot be
decoded. -/
theorem Stands.drainWithin (stands : Stands replica results feed left)
    (readable : replica.readTables = .ok replica.tables) {position : Position α}
    (usable : StreamCursor.IsUsable position) {moves : Nat}
    (enough : left.length < moves) :
    ((EntryCursor.pageMethods replica).drainWithin moves
      ⟨some feed, position⟩).1 =
      left.mapM feed.source.decode := by
  induction moves generalizing feed left position with
  | zero => exact absurd enough (Nat.not_lt_zero _)
  | succ moves inductionHypothesis =>
      rcases stands.pull readable with
        ⟨rfl, ends⟩ | ⟨row, rest, after, rfl, taken, next, same, _⟩
      · have stops :
            (EntryCursor.pageMethods replica).next ⟨some feed, position⟩ =
              (.ok false, ⟨none, .exhausted⟩) :=
              StreamCursor.next_of_none usable ends
        rw [CursorMethods.drainWithin, stops]
        rfl
      · rw [List.mapM_cons]
        cases decoded : feed.source.decode row with
        | error error =>
            rw [decoded] at taken
            have fails :
                (EntryCursor.pageMethods replica).next ⟨some feed, position⟩ =
                  (.error error, ⟨none, .exhausted⟩) :=
                  StreamCursor.next_of_error usable taken
            rw [CursorMethods.drainWithin, fails]
            rfl
        | ok item =>
            rw [decoded] at taken
            have advances :
                (EntryCursor.pageMethods replica).next ⟨some feed, position⟩ =
                  (.ok true, ⟨some after, .on item⟩) :=
                  StreamCursor.next_of_some usable taken
            have drained := inductionHypothesis next (Or.inr ⟨item, rfl⟩)
              (Nat.lt_of_succ_lt_succ enough)
            rw [CursorMethods.drainWithin_of_next advances rfl, drained, same]
            cases rest.mapM feed.source.decode <;> rfl

/-- Whether items are what the rows of a result stand for, one after the
other. -/
def Decodes (source : PageSource α) (rows : List ResultRow) (items : List α) :
    Prop :=
  List.Forall₂ (fun row item => source.decode row = .ok item) rows items

theorem Decodes.mapM {source : PageSource α} {rows : List ResultRow}
    {items : List α} (decodes : Decodes source rows items) :
    rows.mapM source.decode = .ok items := by
  induction decodes with
  | nil => rfl
  | cons decoded _ inductionHypothesis =>
      rw [List.mapM_cons, decoded, inductionHypothesis]
      rfl

/-- A feed cannot give more rows than its extent says. -/
theorem Stands.length_le (stands : Stands replica results feed left)
    (bounded :
      results.length ≤
        replica.tables.entities.length + replica.tables.edges.length) :
    left.length ≤ feed.extent replica := by
  obtain ⟨_, _, done, rest, whole, remains, _⟩ := stands
  have total := congrArg List.length whole
  rw [List.length_append, List.length_append] at total
  rw [remains, List.length_append, extent]
  cases feed.allowance with
  | none =>
      show feed.waiting.length + rest.length ≤ feed.waiting.length + (_ + _)
      omega
  | some count =>
      have atMost : (rest.take count).length ≤ count :=
        List.length_take_le count rest
      show feed.waiting.length + (rest.take count).length ≤
        feed.waiting.length + count
      omega

theorem Stands.drain (stands : Stands replica results feed left)
    (readable : replica.readTables = .ok replica.tables)
    (bounded :
      results.length ≤
        replica.tables.entities.length + replica.tables.edges.length) :
    (EntryCursor.paged (.ofFeed feed)).drain replica =
        left.mapM feed.source.decode :=
  stands.drainWithin readable (Or.inl rfl)
    (Nat.lt_succ_of_le (stands.length_le bounded))

/-- The feed of a result before anything was read. -/
def unread (source : PageSource α) (window : Option Window)
    (replica : Replica) : PageFeed α :=
  ⟨source, replica.bufferSize, [], none, window.map (·.limit), none⟩

/-- How many rows the first page has at most. -/
def firstLength (window : Option Window) (replica : Replica) : Nat :=
  lengthWithin replica.bufferSize (window.map (·.limit))

/-- How many rows are skipped. -/
def skipped (window : Option Window) : Nat :=
  (window.map (·.offset)).getD 0

theorem start_eq_ok {source : PageSource α} {window : Option Window}
    {rows : List ResultRow} (positive : firstLength window replica ≠ 0)
    (readable : replica.readTables = .ok replica.tables)
    (page :
      source.page none ⟨skipped window, firstLength window replica⟩
        replica.tables = .ok rows) :
    start source window replica =
      .ok ((unread source window replica).turn (firstLength window replica)
          rows) := by
  change lengthWithin replica.bufferSize (window.map (·.limit)) ≠ 0 at positive
  unfold start
  rw [if_neg positive, readable]
  show (source.page none ⟨skipped window, firstLength window replica⟩
    replica.tables >>= _) = _
  rw [page]
  rfl

theorem within_drop_skipped (window : Option Window) (rows : List ResultRow) :
    within (window.map (·.limit)) (rows.drop (skipped window)) =
        Window.cut window rows := by
  cases window <;> rfl

theorem following_turn_ne_none_iff {asked : Nat} {rows : List ResultRow} :
    (feed.turn asked rows).following ≠ none ↔
      ¬(rows.length < asked ∨
        lengthWithin feed.pageLength
            (feed.allowance.map (· - rows.length)) = 0) := by
  dsimp only [turn]
  by_cases stops : rows.length < asked ∨
      lengthWithin feed.pageLength (feed.allowance.map (· - rows.length)) = 0
  · rw [if_pos stops]
    exact iff_of_false (fun continues => continues rfl) fun goes => goes stops
  · rw [if_neg stops]
    exact iff_of_true (Option.some_ne_none _) stops

/-- A page follows the first one if the rows in the window fill the first one,
and it is not all that the window has room for. -/
theorem follows_first_iff {source : PageSource α} {window : Option Window}
    {rows : List ResultRow} (buffered : 0 < replica.bufferSize) :
    ((unread source window replica).turn (firstLength window replica)
        ((rows.drop (skipped window)).take
          (firstLength window replica))).following ≠ none ↔
      replica.bufferSize ≤ (Window.cut window rows).length ∧
        ∀ part ∈ window, replica.bufferSize < part.limit := by
  have goes : ((unread source window replica).turn (firstLength window replica)
        ((rows.drop (skipped window)).take
          (firstLength window replica))).following ≠ none ↔
      ¬(min (firstLength window replica) (rows.drop (skipped window)).length <
          firstLength window replica ∨
        lengthWithin replica.bufferSize ((window.map (·.limit)).map
          (· - min (firstLength window replica)
              (rows.drop (skipped window)).length)) = 0) := by
    rw [following_turn_ne_none_iff, List.length_take]
    rfl
  rw [goes]
  cases window with
  | none =>
      show ¬(min replica.bufferSize rows.length < replica.bufferSize ∨
        replica.bufferSize = 0) ↔
        replica.bufferSize ≤ rows.length ∧ _
      simp only [Option.not_mem_none, false_implies, implies_true, and_true]
      omega
  | some part =>
      obtain ⟨offset, limit⟩ := part
      show ¬(min (min limit replica.bufferSize) (rows.drop offset).length <
            min limit replica.bufferSize ∨
          min (limit - min (min limit replica.bufferSize)
            (rows.drop offset).length)
            replica.bufferSize = 0) ↔
        replica.bufferSize ≤ ((rows.drop offset).take limit).length ∧ _
      simp only [Option.mem_some_iff, forall_eq', List.length_take]
      omega

/-- A feed that was started stands where the rows begin that its window cuts out
of a result. Pages after the first one are needed only if the window has more
rows than that. -/
theorem exists_stands_start {source : PageSource α} (window : Option Window)
    (buffered : 0 < replica.bufferSize)
    (readable : replica.readTables = .ok replica.tables)
    (first :
      firstLength window replica ≠ 0 →
        source.page none ⟨skipped window, firstLength window replica⟩
            replica.tables =
          .ok ((results.drop (skipped window)).take
            (firstLength window replica)))
    (goesOn :
      replica.bufferSize ≤ (Window.cut window results).length →
        (∀ part ∈ window, replica.bufferSize < part.limit) →
        GoesOn source replica.tables results replica.bufferSize) :
    ∃ feed, start source window replica = .ok feed ∧ feed.source = source ∧
      Stands replica results feed (Window.cut window results) ∧
        feed.unspent = window.map (·.limit) := by
  rw [← within_drop_skipped]
  by_cases spent : firstLength window replica = 0
  · have nothing (rows : List ResultRow) :
        within (window.map (·.limit)) rows = [] :=
      within_of_spent buffered spent rows
    have fresh : Stands replica results (unread source window replica) [] :=
      ⟨fun follows =>
        absurd rfl follows, buffered, [], results, rfl, (nothing results).symm,
        nothing results⟩
    refine ⟨unread source window replica, if_pos spent, rfl, ?_, ?_⟩
    · rw [nothing]
      exact fresh
    · rw [unspent, unread, Option.map_map]
      rfl
  · have split := (List.take_append_drop (skipped window) results).symm
    refine ⟨_, start_eq_ok spent readable (first spent), rfl, ?_, ?_⟩
    · have pages (follows) :
          GoesOn source replica.tables results replica.bufferSize :=
        have past :=
          (@follows_first_iff _ _ source window results buffered).mp follows
        goesOn past.1 past.2
      exact @stands_turn _ _ _ (unread source window replica) _ _ _ pages
        buffered split rfl
        (Nat.pos_of_ne_zero spent)
    · exact unspent_turn rfl (List.length_take_le _ _)

end PageFeed

end CachedDirectory
