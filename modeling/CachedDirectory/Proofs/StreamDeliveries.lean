import CachedDirectory.Proofs.CursorAgreement

/-!
# What a stream delivers

What happened to a cursor is a list of events: its uses with their answers and
where it stood before and after them. A cursor over messages leads from entry to
entry up to the first failure, which is returned once; from then on there is
nothing more. Once closed, it stays closed.
-/

namespace CachedDirectory

/-- Whether a use closes a cursor, whatever comes of it. -/
def CursorCall.closes : CursorCall → Bool
  | .close | .closeWithCause _ | .drain => true
  | .next | .get | .first | .last | .previous | .absolute _ | .isClosed => false

/-- What happened to a cursor: a use, its answer, and where the cursor stood
before and after it. -/
structure CursorEvent (α : Type) where
  call : CursorCall
  before : Position α
  answer : Answer (CursorReply α)
  after : Position α

namespace CursorEvent

variable {α : Type}

/-- The entry that moving on led to. -/
def reached (event : CursorEvent α) : List α :=
  match event.call, event.answer, event.after with
  | .next, .ok (.moved true), .on item => [item]
  | _, _, _ => []

/-- The entries in an answer. -/
def given (event : CursorEvent α) : List α :=
  match event.answer with
  | .ok (.item value) => [value]
  | .ok (.items values) => values
  | _ => []

/-- Whether it failed to move a cursor on, or to drain it, that was not
closed. -/
def fails (event : CursorEvent α) : Bool :=
  match event.call with
  | .next | .drain => !event.before.isClosed && !event.answer.isOk
  | _ => false

/-- Whether nothing came of a use: it led to no entry, gave none and did not
fail to, and moving on was answered so unless the cursor was closed. -/
structure IsQuiet (event : CursorEvent α) : Prop where
  reached : event.reached = []
  given : event.given = []
  fails : event.fails = false
  next :
    event.call = .next → event.before.isClosed = false →
      event.answer = .ok (.moved false)

/-- Whether a use found the cursor closed, and left it so. -/
structure IsRefused (event : CursorEvent α) : Prop where
  after : event.after.isClosed = true
  next : event.call = .next → event.answer = .error Position.closedError
  get : event.call = .get → event.answer = .error Position.closedError

end CursorEvent

namespace CursorMethods

variable {γ δ α : Type} {left : CursorMethods γ α} {right : CursorMethods δ α}
  {related : γ → δ → Prop}

/-- What happens to a cursor by a use. -/
def event (methods : CursorMethods γ α) (cursor : γ) (call : CursorCall) :
    CursorEvent α :=
  let (answer, used) := methods.perform call cursor
  ⟨call, methods.position cursor, answer, methods.position used⟩

/-- What happens to a cursor by uses. -/
def events (methods : CursorMethods γ α) :
    List CursorCall → γ → List (CursorEvent α)
  | [], _ => []
  | call :: rest, cursor =>
      methods.event cursor call ::
        methods.events rest (methods.perform call cursor).2

/-- The same happens to cursors that are related. -/
theorem Agrees.events (agrees : left.Agrees right related)
    (calls : List CursorCall) {first : γ} {second : δ}
    (alike : related first second) :
    left.events calls first = right.events calls second := by
  induction calls generalizing first second with
  | nil => rfl
  | cons call rest inductionHypothesis =>
      obtain ⟨sameAnswer, stillAlike⟩ := agrees.perform call alike
      dsimp only [CursorMethods.events, CursorMethods.event]
      rw [inductionHypothesis stillAlike, sameAnswer, agrees.position _ _ alike,
        agrees.position _ _ stillAlike]

/-- What every use shows of a cursor in some condition, in which the use leaves
it, uses one after the other show. -/
theorem forall_events {motive : γ → Prop} {Shows : CursorEvent α → Prop}
    (step : ∀ cursor call, motive cursor →
      Shows (left.event cursor call) ∧ motive (left.perform call cursor).2)
    (calls : List CursorCall) {cursor : γ} (kept : motive cursor) :
    ∀ event ∈ left.events calls cursor, Shows event := by
  induction calls generalizing cursor with
  | nil => exact fun _ member => nomatch member
  | cons call rest inductionHypothesis =>
      obtain ⟨here, still⟩ := step cursor call kept
      exact List.forall_mem_cons.mpr ⟨here, inductionHypothesis still⟩

/-- Events that bring a cursor into some condition are followed by what it shows
in it. -/
theorem pairwise_events {Brings Shows : CursorEvent α → Prop} {Keeps : γ → Prop}
    (brings :
      ∀ cursor call,
        Brings (left.event cursor call) → Keeps (left.perform call cursor).2)
    (shows :
      ∀ calls cursor,
        Keeps cursor → ∀ event ∈ left.events calls cursor, Shows event)
    (calls : List CursorCall) (cursor : γ) :
    (left.events calls cursor).Pairwise fun event later =>
        Brings event → Shows later := by
  induction calls generalizing cursor with
  | nil => exact List.Pairwise.nil
  | cons call rest inductionHypothesis =>
      refine List.pairwise_cons.mpr
        ⟨fun later member brought => ?_, inductionHypothesis _⟩
      exact shows rest _ (brings cursor call brought) later member

end CursorMethods

namespace StreamCursor

variable {φ α : Type} {pull : φ → Option (Answer α × φ)} {extent : φ → Nat}
  {cursor : StreamCursor φ α}

/-- Whether a cursor takes nothing more from its feed. -/
def IsSpent (cursor : StreamCursor φ α) : Prop :=
  cursor.position = .exhausted ∨ cursor.position = .closed

theorem drainWithin_snd (pull : φ → Option (Answer α × φ)) (extent : φ → Nat)
    (moves : Nat) (cursor : StreamCursor φ α) :
    ((methods pull extent).drainWithin moves cursor).2 = ⟨none, .closed⟩ := by
  induction moves generalizing cursor with
  | zero => rfl
  | succ moves inductionHypothesis =>
      unfold CursorMethods.drainWithin
      rcases (methods pull extent).next cursor with ⟨⟨error⟩ | ⟨_ | _⟩, moved⟩
      · rfl
      · rfl
      · dsimp only
        cases ((methods pull extent).position moved).get with
        | error error => rfl
        | ok item =>
            have drained := inductionHypothesis moved
            rcases later : (methods pull extent).drainWithin moves moved with
                ⟨_ | _, closed⟩
            all_goals
              rw [later] at drained
              exact drained

theorem perform_next (cursor : StreamCursor φ α) :
    (methods pull extent).perform .next cursor =
      ((next pull cursor).1.map .moved, (next pull cursor).2) :=
  rfl

theorem perform_drain (cursor : StreamCursor φ α) :
    (methods pull extent).perform .drain cursor =
      (((methods pull extent).drain cursor).1.map .items, ⟨none, .closed⟩) := by
  have closed :=
    drainWithin_snd pull extent ((methods pull extent).extent cursor + 1) cursor
  exact Prod.ext rfl closed

theorem perform_of_closes {call : CursorCall} (closes : call.closes = true)
    (cursor : StreamCursor φ α) :
    ((methods pull extent).perform call cursor).2 = ⟨none, .closed⟩ := by
  cases call with
  | close | closeWithCause => rfl
  | drain => rw [perform_drain]
  | _ => cases closes

theorem event_next {answer : Answer Bool} {moved : StreamCursor φ α}
    (moves : next pull cursor = (answer, moved)) :
    (methods pull extent).event cursor .next =
      ⟨.next, cursor.position, answer.map .moved, moved.position⟩ := by
  rw [CursorMethods.event, perform_next, moves]
  rfl

theorem event_drain {answer : Answer (List α)}
    (drained : ((methods pull extent).drain cursor).1 = answer) :
    (methods pull extent).event cursor .drain =
      ⟨.drain, cursor.position, answer.map .items, .closed⟩ := by
  rw [CursorMethods.event, perform_drain, drained]
  rfl

theorem event_get (cursor : StreamCursor φ α) :
    (methods pull extent).event cursor .get =
      ⟨.get, cursor.position, cursor.position.get.map .item, cursor.position⟩ :=
  rfl

theorem events_next {answer : Answer Bool} {moved : StreamCursor φ α}
    (moves : next pull cursor = (answer, moved)) (rest : List CursorCall) :
    (methods pull extent).events (.next :: rest) cursor =
      ⟨.next, cursor.position, answer.map .moved, moved.position⟩ ::
        (methods pull extent).events rest moved := by
  rw [CursorMethods.events, event_next moves, perform_next, moves]

theorem events_drain {answer : Answer (List α)}
    (drained : ((methods pull extent).drain cursor).1 = answer)
    (rest : List CursorCall) :
    (methods pull extent).events (.drain :: rest) cursor =
      ⟨.drain, cursor.position, answer.map .items, .closed⟩ ::
        (methods pull extent).events rest ⟨none, .closed⟩ := by
  rw [CursorMethods.events, event_drain drained, perform_drain]

/-! ## Closed and exhausted cursors -/

theorem next_of_closed (closed : cursor.position = .closed) :
    next pull cursor = (.error Position.closedError, cursor) := by
  rw [next, closed]

theorem next_of_exhausted (exhausted : cursor.position = .exhausted) :
    next pull cursor = (.ok false, cursor) := by
  rw [next, exhausted]

theorem drain_of_closed (closed : cursor.position = .closed) :
    ((methods pull extent).drain cursor).1 = .error Position.closedError := by
  have refused :
      (methods pull extent).next cursor =
          (.error Position.closedError, cursor) :=
    next_of_closed closed
  rw [CursorMethods.drain, CursorMethods.drainWithin, refused]

theorem drain_of_exhausted (exhausted : cursor.position = .exhausted) :
    ((methods pull extent).drain cursor).1 = .ok [] := by
  have stops : (methods pull extent).next cursor = (.ok false, cursor) :=
    next_of_exhausted exhausted
  rw [CursorMethods.drain, CursorMethods.drainWithin, stops]

theorem closed_perform (closed : cursor.position = .closed)
    (call : CursorCall) :
    ((methods pull extent).perform call cursor).2.position = .closed := by
  cases call with
  | next =>
      rw [perform_next, next_of_closed closed]
      exact closed
  | close | closeWithCause => rfl
  | drain => rw [perform_drain]
  | _ => exact closed

/-- A closed cursor refuses to move on and has no entry, and stays closed. -/
theorem isRefused_event (closed : cursor.position = .closed)
    (call : CursorCall) :
    ((methods pull extent).event cursor call).IsRefused where
  after := congrArg Position.isClosed (closed_perform closed call)
  next := by
    rintro rfl
    rw [event_next (next_of_closed closed)]
    rfl
  get := by
    rintro rfl
    rw [event_get, closed]
    rfl

theorem spent_perform (spent : cursor.IsSpent) (call : CursorCall) :
    ((methods pull extent).perform call cursor).2.IsSpent := by
  rcases spent with exhausted | closed
  · cases call with
    | next =>
        rw [perform_next, next_of_exhausted exhausted]
        exact Or.inl exhausted
    | close | closeWithCause => exact Or.inr rfl
    | drain =>
        rw [perform_drain]
        exact Or.inr rfl
    | _ => exact Or.inl exhausted
  · exact Or.inr (closed_perform closed call)

/-- Nothing comes of using a cursor that has come to its end. -/
theorem isQuiet_event (spent : cursor.IsSpent) (call : CursorCall) :
    ((methods pull extent).event cursor call).IsQuiet := by
  cases call with
  | next =>
      rcases spent with exhausted | closed
      · rw [event_next (next_of_exhausted exhausted), exhausted]
        exact ⟨rfl, rfl, rfl, fun _ _ => rfl⟩
      · rw [event_next (next_of_closed closed), closed]
        exact ⟨rfl, rfl, rfl, fun _ opened => nomatch opened⟩
  | drain =>
      rcases spent with exhausted | closed
      · rw [event_drain (drain_of_exhausted exhausted), exhausted]
        exact ⟨rfl, rfl, rfl, fun same => nomatch same⟩
      · rw [event_drain (drain_of_closed closed), closed]
        exact ⟨rfl, rfl, rfl, fun same => nomatch same⟩
  | get =>
      rcases spent with exhausted | closed
      · rw [event_get, exhausted]
        exact ⟨rfl, rfl, rfl, fun same => nomatch same⟩
      · rw [event_get, closed]
        exact ⟨rfl, rfl, rfl, fun same => nomatch same⟩
  | _ => exact ⟨rfl, rfl, rfl, fun same => nomatch same⟩

theorem isQuiet_of_spent (calls : List CursorCall) (spent : cursor.IsSpent) :
    ∀ event ∈ (methods pull extent).events calls cursor, event.IsQuiet :=
  CursorMethods.forall_events (motive := IsSpent)
    (fun _ call spent => ⟨isQuiet_event spent call, spent_perform spent call⟩)
      calls spent

theorem isRefused_of_closed (calls : List CursorCall)
    (closed : cursor.position = .closed) :
    ∀ event ∈ (methods pull extent).events calls cursor, event.IsRefused :=
  CursorMethods.forall_events
    (motive := fun cursor => cursor.position = .closed)
    (fun _ call closed =>
      ⟨isRefused_event closed call, closed_perform closed call⟩) calls closed

/-- Moving on leads to an entry or to the end. -/
theorem next_cases (cursor : StreamCursor φ α) :
    (∃ item rest, next pull cursor = (.ok true, ⟨some rest, .on item⟩)) ∨
      (next pull cursor).2.IsSpent := by
  unfold next
  cases position : cursor.position with
  | closed => exact Or.inr (Or.inr position)
  | exhausted => exact Or.inr (Or.inl position)
  | before | on _ =>
      dsimp only
      rcases cursor.feed.bind pull with _ | ⟨_ | item, rest⟩
      · exact Or.inr (Or.inl rfl)
      · exact Or.inr (Or.inl rfl)
      · exact Or.inl ⟨item, rest, rfl⟩

/-- A cursor that could not be moved on or drained has come to its end. -/
theorem spent_of_fails {call : CursorCall}
    (fails : ((methods pull extent).event cursor call).fails = true) :
    ((methods pull extent).perform call cursor).2.IsSpent := by
  cases call with
  | next =>
      rcases next_cases cursor with ⟨item, rest, moves⟩ | spent
      · rw [event_next moves] at fails
        simp [CursorEvent.fails, Except.isOk, Except.toBool,
          Except.map] at fails
      · exact spent
  | drain =>
      rw [perform_drain]
      exact Or.inr rfl
  | _ => cases fails

/-- After it failed once to move a cursor on or to drain it, nothing more comes
of it. -/
theorem pairwise_isQuiet (calls : List CursorCall) (cursor : StreamCursor φ α) :
    ((methods pull extent).events calls cursor).Pairwise fun event later =>
      event.fails = true → later.IsQuiet :=
  CursorMethods.pairwise_events (fun _ _ fails => spent_of_fails fails)
    (fun calls _ spent => isQuiet_of_spent calls spent) calls cursor

theorem isClosed_of_closes (calls : List CursorCall)
    (cursor : StreamCursor φ α) :
    ∀ event ∈ (methods pull extent).events calls cursor,
      event.call.closes = true → event.after.isClosed = true := by
  refine CursorMethods.forall_events (motive := fun _ => True)
    (fun cursor call _ => ⟨fun closes => ?_, trivial⟩) calls trivial
  have shut : ((methods pull extent).perform call cursor).2 = ⟨none, .closed⟩ :=
    perform_of_closes closes cursor
  exact congrArg (fun used => used.position.isClosed) shut

/-- A cursor that was closed or drained refuses everything. -/
theorem pairwise_isRefused (calls : List CursorCall)
    (cursor : StreamCursor φ α) :
    ((methods pull extent).events calls cursor).Pairwise fun event later =>
      event.call.closes = true → later.IsRefused :=
  CursorMethods.pairwise_events
    (fun cursor _ closes =>
      congrArg StreamCursor.position (perform_of_closes closes cursor))
    (fun calls _ closed => isRefused_of_closed calls closed) calls cursor

/-! ## Messages -/

/-- The items before the first failure. -/
def itemsBefore : List (Answer α) → List α
  | .ok item :: rest => item :: itemsBefore rest
  | .error _ :: _ | [] => []

/-- The first failure. -/
def firstFailure? : List (Answer α) → Option DirectoryError
  | .ok _ :: rest => firstFailure? rest
  | .error error :: _ => some error
  | [] => none

end StreamCursor

/-- How often a cursor is moved on before it is closed. -/
def CursorCall.movesOpen : List CursorCall → Nat
  | [] => 0
  | .next :: rest => movesOpen rest + 1
  | call :: rest => if call.closes then 0 else movesOpen rest

/-- Whether a cursor is moved on beyond so many entries, or drained, before it
is closed. -/
def CursorCall.goesBeyond : Nat → List CursorCall → Bool
  | _, [] => false
  | count, .next :: rest => count = 0 || goesBeyond (count - 1) rest
  | _, .drain :: _ => true
  | count, call :: rest => !call.closes && goesBeyond count rest

namespace StreamCursor

variable {α : Type} {messages : List (Answer α)} {position : Position α}

theorem next_nil (usable : IsUsable position) :
    next pullMessage ⟨some [], position⟩ = (.ok false, ⟨none, .exhausted⟩) := by
  have ends : pullMessage ([] : List (Answer α)) = none := rfl
  exact next_of_none usable ends

theorem next_error (usable : IsUsable position) (error : DirectoryError)
    (rest : List (Answer α)) :
    next pullMessage ⟨some (.error error :: rest), position⟩ =
      (.error error, ⟨none, .exhausted⟩) := by
  have taken : pullMessage (.error error :: rest) = some (.error error, rest) :=
    rfl
  exact next_of_error usable taken

theorem next_ok (usable : IsUsable position) (item : α)
    (rest : List (Answer α)) :
    next pullMessage ⟨some (.ok item :: rest), position⟩ =
        (.ok true, ⟨some rest, .on item⟩) := by
  have taken : pullMessage (.ok item :: rest) = some (.ok item, rest) := rfl
  exact next_of_some usable taken

/-- A cursor that is drained gives the items up to the end, or the first
failure. -/
theorem drainWithin_messages (usable : IsUsable position) {moves : Nat}
    (enough : messages.length < moves) :
    (messageMethods.drainWithin moves ⟨some messages, position⟩).1 =
      (firstFailure? messages).elim (.ok (itemsBefore messages)) .error := by
  induction moves generalizing messages position with
  | zero => exact absurd enough (Nat.not_lt_zero _)
  | succ moves inductionHypothesis =>
      rcases messages with _ | ⟨error | item, rest⟩
      · have stops :
            messageMethods.next ⟨some [], position⟩ =
                (.ok false, ⟨none, .exhausted⟩) :=
          next_nil usable
        rw [CursorMethods.drainWithin, stops]
        rfl
      · have fails :
          messageMethods.next ⟨some (.error error :: rest), position⟩ =
            (.error error, ⟨none, .exhausted⟩) := next_error usable error rest
        rw [CursorMethods.drainWithin, fails]
        rfl
      · have advances :
          messageMethods.next ⟨some (.ok item :: rest), position⟩ =
            (.ok true, ⟨some rest, .on item⟩) := next_ok usable item rest
        have later :=
          inductionHypothesis (Or.inr ⟨item, rfl⟩)
            (Nat.lt_of_succ_lt_succ enough)
        rw [CursorMethods.drainWithin_of_next advances rfl, later,
          firstFailure?, itemsBefore]
        cases firstFailure? rest <;> rfl

theorem drain_messages (usable : IsUsable position) :
    (messageMethods.drain ⟨some messages, position⟩).1 =
      (firstFailure? messages).elim (.ok (itemsBefore messages)) .error :=
  drainWithin_messages usable (Nat.lt_succ_self messages.length)

/-- What happens to a cursor over messages by uses: it leads to the items before
the first failure, which is returned once if the uses go beyond these items. -/
structure Delivers (messages : List (Answer α)) (calls : List CursorCall)
    (events : List (CursorEvent α)) : Prop where
  reached : events.flatMap CursorEvent.reached =
    (itemsBefore messages).take (CursorCall.movesOpen calls)
  fails : events.countP CursorEvent.fails =
    ((firstFailure? messages).isSome &&
      CursorCall.goesBeyond (itemsBefore messages).length calls).toNat
  answers : ∀ event ∈ events, event.fails = true →
    ∃ error, firstFailure? messages = some error ∧ event.answer = .error error

/-- A use after which nothing more comes of the cursor. -/
theorem delivers_of_quiet {calls : List CursorCall} {event : CursorEvent α}
    {later : List (CursorEvent α)} (quiet : ∀ event ∈ later, event.IsQuiet)
    (reached :
      event.reached = (itemsBefore messages).take (CursorCall.movesOpen calls))
    (fails :
      event.fails = ((firstFailure? messages).isSome &&
        CursorCall.goesBeyond (itemsBefore messages).length calls))
    (answer :
      event.fails = true → ∃ error,
        firstFailure? messages = some error ∧ event.answer = .error error) :
    Delivers messages calls (event :: later) where
  reached := by
    have nothing : later.flatMap CursorEvent.reached = [] :=
      List.flatMap_eq_nil_iff.mpr fun other member =>
        (quiet other member).reached
    rw [List.flatMap_cons, nothing, List.append_nil, reached]
  fails := by
    have none : later.countP CursorEvent.fails = 0 := by
      refine List.countP_eq_zero.mpr fun other member => ?_
      simp [(quiet other member).fails]
    rw [List.countP_cons, none, ← fails]
    cases event.fails <;> rfl
  answers := by
    refine List.forall_mem_cons.mpr ⟨answer, fun other member failed => ?_⟩
    simp [(quiet other member).fails] at failed

/-- A use that neither moves the cursor nor closes it. -/
theorem Delivers.cons_idle {call : CursorCall} {rest : List CursorCall}
    {event : CursorEvent α} {later : List (CursorEvent α)}
    (delivers : Delivers messages rest later) (reached : event.reached = [])
    (fails : event.fails = false)
    (moves : CursorCall.movesOpen (call :: rest) = CursorCall.movesOpen rest)
    (goes :
      ∀ count,
        CursorCall.goesBeyond count (call :: rest) =
          CursorCall.goesBeyond count rest) :
    Delivers messages (call :: rest) (event :: later) where
  reached := by
    rw [List.flatMap_cons, reached, List.nil_append, delivers.reached, moves]
  fails := by
    rw [goes, ← delivers.fails]
    exact List.countP_cons_of_neg (by simp [fails])
  answers := by
    refine List.forall_mem_cons.mpr ⟨fun failed => ?_, delivers.answers⟩
    simp [fails] at failed

/-- A move that leads to an item. -/
theorem Delivers.cons_item {item : α} {rest : List CursorCall}
    {later : List (CursorEvent α)} (delivers : Delivers messages rest later)
    (position : Position α) :
    Delivers (.ok item :: messages) (.next :: rest)
      (⟨.next, position, .ok (.moved true), .on item⟩ :: later) where
  reached := by
    rw [List.flatMap_cons, delivers.reached]
    rfl
  fails := by
    rw [List.countP_cons_of_neg
      (by simp [CursorEvent.fails, Except.isOk, Except.toBool]), delivers.fails]
    simp [firstFailure?, itemsBefore, CursorCall.goesBeyond]
  answers := by
    refine List.forall_mem_cons.mpr ⟨fun failed => ?_, delivers.answers⟩
    simp [CursorEvent.fails, Except.isOk, Except.toBool] at failed

theorem isQuiet_of_exhausted (calls : List CursorCall) :
    ∀ event ∈ messageMethods.events calls
      (⟨none, .exhausted⟩ : StreamCursor (List (Answer α)) α),
      event.IsQuiet :=
  isQuiet_of_spent calls (Or.inl rfl)

theorem isQuiet_of_closed (calls : List CursorCall) :
    ∀ event ∈ messageMethods.events calls
      (⟨none, .closed⟩ : StreamCursor (List (Answer α)) α),
      event.IsQuiet :=
  isQuiet_of_spent calls (Or.inr rfl)

theorem IsUsable.opened (usable : IsUsable position) :
    position.isClosed = false := by
  rcases usable with rfl | ⟨item, rfl⟩ <;> rfl

/-- The end of the messages is no failure. -/
theorem delivers_next_nil (usable : IsUsable position)
    (rest : List CursorCall) :
    Delivers [] (.next :: rest)
        (messageMethods.events (.next :: rest) ⟨some [], position⟩) := by
  have happens : messageMethods.events (.next :: rest) ⟨some [], position⟩ =
      _ :: messageMethods.events rest ⟨none, .exhausted⟩ :=
    events_next (next_nil usable) rest
  rw [happens]
  refine delivers_of_quiet (isQuiet_of_exhausted rest) rfl ?_ ?_
  · simp [CursorEvent.fails, firstFailure?, Except.map, Except.isOk,
      Except.toBool]
  · simp [CursorEvent.fails, Except.map, Except.isOk, Except.toBool]

/-- A failure that is moved on to is the first one. -/
theorem delivers_next_error (usable : IsUsable position)
    (error : DirectoryError) (others : List (Answer α))
    (rest : List CursorCall) :
    Delivers (.error error :: others) (.next :: rest)
      (messageMethods.events (.next :: rest)
          ⟨some (.error error :: others), position⟩) := by
  have happens :
      messageMethods.events (.next :: rest)
        ⟨some (.error error :: others), position⟩ =
        _ :: messageMethods.events rest ⟨none, .exhausted⟩ :=
    events_next (next_error usable error others) rest
  rw [happens]
  refine delivers_of_quiet (isQuiet_of_exhausted rest) rfl ?_ fun _ =>
    ⟨error, rfl, rfl⟩
  simp [CursorEvent.fails, usable.opened, firstFailure?, itemsBefore,
    CursorCall.goesBeyond, Except.map, Except.isOk, Except.toBool]

/-- To drain a cursor is to go beyond all of its items. -/
theorem delivers_drain (usable : IsUsable position) (rest : List CursorCall) :
    Delivers messages (.drain :: rest)
      (messageMethods.events (.drain :: rest) ⟨some messages, position⟩) := by
  have happens :
      messageMethods.events (.drain :: rest) ⟨some messages, position⟩ =
        _ :: messageMethods.events rest ⟨none, .closed⟩ :=
    events_drain (drain_messages usable) rest
  rw [happens]
  cases failure : firstFailure? messages with
  | none =>
      refine delivers_of_quiet (isQuiet_of_closed rest) rfl ?_ ?_
      · simp [CursorEvent.fails, failure, Except.map, Except.isOk,
          Except.toBool]
      · simp [CursorEvent.fails, failure, Except.map, Except.isOk,
          Except.toBool]
  | some error =>
      refine delivers_of_quiet (isQuiet_of_closed rest) rfl ?_ fun _ =>
        ⟨error, failure, rfl⟩
      simp [CursorEvent.fails, failure, usable.opened, CursorCall.goesBeyond,
        Except.map, Except.isOk, Except.toBool]

theorem delivers_events (usable : IsUsable position) (calls : List CursorCall) :
    Delivers messages calls
        (messageMethods.events calls ⟨some messages, position⟩) := by
  induction calls generalizing messages position with
  | nil =>
      refine ⟨?_, ?_, fun _ member => nomatch member⟩
      · simp [CursorMethods.events, CursorCall.movesOpen]
      · simp [CursorMethods.events, CursorCall.goesBeyond]
  | cons call rest inductionHypothesis =>
      cases call with
      | next =>
          rcases messages with _ | ⟨error | item, others⟩
          · exact delivers_next_nil usable rest
          · exact delivers_next_error usable error others rest
          · have happens :
                messageMethods.events (.next :: rest)
                  ⟨some (.ok item :: others), position⟩ =
                  _ :: messageMethods.events rest ⟨some others, .on item⟩ :=
              events_next (next_ok usable item others) rest
            rw [happens]
            exact (inductionHypothesis (Or.inr ⟨item, rfl⟩)).cons_item position
      | drain => exact delivers_drain usable rest
      | close | closeWithCause =>
          refine delivers_of_quiet (isQuiet_of_closed rest) rfl ?_ fun failed =>
            nomatch failed
          simp [CursorMethods.event, CursorEvent.fails, CursorCall.goesBeyond,
            CursorCall.closes]
      | _ =>
          exact (inductionHypothesis usable).cons_idle rfl rfl rfl fun _ => rfl

/-- What a cursor leads to is a prefix of the items before the first failure,
one for each move before it is closed. The first failure is returned once if the
cursor is moved on or drained beyond these items before it is closed; nothing
else fails, and nothing more comes after it. Once closed or drained, a cursor
stays closed and refuses to move on and to give an entry. -/
theorem delivers_prefix_and_fails_once (messages : List (Answer α))
    (buffer : Nat) (turns : Channel α → Nat) (calls : List CursorCall) :
    let items := itemsBefore messages
    let events :=
      (channelMethods turns).events calls
        (.ofFeed (.ofMessages buffer messages))
    (events.flatMap CursorEvent.reached) <+: items ∧
      (events.flatMap CursorEvent.reached).length =
        min (CursorCall.movesOpen calls) items.length ∧
      events.countP CursorEvent.fails =
        ((firstFailure? messages).isSome &&
          CursorCall.goesBeyond items.length calls).toNat ∧
      (∀ event ∈ events, event.fails = true →
        ∃ error,
          firstFailure? messages = some error ∧ event.answer = .error error) ∧
      (events.Pairwise fun event later => event.fails = true → later.IsQuiet) ∧
      (∀ event ∈ events,
        event.call.closes = true → event.after.isClosed = true) ∧
      events.Pairwise fun event later =>
          event.call.closes = true → later.IsRefused := by
  intro items events
  have direct : messageMethods.events calls (.ofFeed messages) = events :=
    (agrees_channel turns).events calls (carries_ofMessages messages buffer)
  have usable : IsUsable (.before : Position α) := Or.inl rfl
  have delivers : Delivers messages calls events := by
    rw [← direct]
    exact delivers_events usable calls
  refine ⟨?_, ?_, delivers.fails, delivers.answers, pairwise_isQuiet calls _,
    isClosed_of_closes calls _, pairwise_isRefused calls _⟩
  · rw [delivers.reached]
    exact List.take_prefix _ items
  · rw [delivers.reached]
    exact List.length_take

/-- The third message is a failure, and the item behind it is never reached. The
cursor is drained then, which closes it. -/
theorem delivers_prefix_and_fails_once_interrupted :
    let failure : DirectoryError := .accessFailure "disk gone"
    let events := (channelMethods fun _ => 1).events
      [.next, .get, .next, .next, .next, .drain, .next, .get]
      (.ofFeed (.ofMessages 2 [.ok 1, .ok 2, .error failure, .ok 3]))
    events.flatMap CursorEvent.reached = [1, 2] ∧
      events.countP CursorEvent.fails = 1 ∧
      (∃ failing, events[3]? = some failing ∧ failing.fails = true ∧
        failing.answer = .error failure ∧ ∀ event ∈ events.drop 4,
          event.IsQuiet) ∧
      ∃ drained, events[5]? = some drained ∧ drained.call.closes = true ∧
        drained.after.isClosed = true ∧ ∀ event ∈ events.drop 6,
            event.IsRefused := by
  intro failure events
  obtain ⟨_, _, once, _, quiet, closed, refused⟩ :=
    delivers_prefix_and_fails_once
    [.ok 1, .ok 2, .error failure, .ok 3] 2 (fun _ => 1)
    [.next, .get, .next, .next, .next, .drain, .next, .get]
  have failing :
      (events.drop 3).Pairwise fun event later =>
          event.fails = true → later.IsQuiet :=
    quiet.drop
  have drained : (events.drop 5).Pairwise fun event later =>
      event.call.closes = true → later.IsRefused := refused.drop
  refine ⟨rfl, once, ⟨_, rfl, rfl, rfl, ?_⟩, ⟨_, rfl, rfl, ?_, ?_⟩⟩
  · exact fun event member => (List.pairwise_cons.mp failing).1 event member rfl
  · exact closed _ (List.mem_of_getElem? (rfl : events[5]? = some _)) rfl
  · exact fun event member => (List.pairwise_cons.mp drained).1 event member rfl

end StreamCursor

end CachedDirectory
