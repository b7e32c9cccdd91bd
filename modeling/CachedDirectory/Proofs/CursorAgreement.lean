import CachedDirectory.Cursor.Channel
import CachedDirectory.Proofs.Paging

/-!
# Cursors that cannot be told apart

Two kinds of cursors are used alike if moving on and closing keep them related,
and related cursors stand at the same position. A cursor over a list and one to
which a producer sends the items of that list are related in this way, whatever
the buffer between them and however far the producer is ahead.
-/

namespace CachedDirectory

namespace CursorMethods

variable {γ δ α : Type} {left : CursorMethods γ α} {right : CursorMethods δ α}
  {related : γ → δ → Prop}

/-- Whether cursors that are related stand alike and stay related, whatever is
done with both. -/
structure Agrees (left : CursorMethods γ α) (right : CursorMethods δ α)
    (related : γ → δ → Prop) : Prop where
  next : ∀ first second, related first second →
    (left.next first).1 = (right.next second).1 ∧
      related (left.next first).2 (right.next second).2
  position :
    ∀ first second,
      related first second → left.position first = right.position second
  close :
    ∀ first second,
      related first second → related (left.close first) (right.close second)
  extent :
    ∀ first second,
      related first second → left.extent first = right.extent second

theorem Agrees.exists_next (agrees : left.Agrees right related) {first : γ}
    {second : δ} (alike : related first second) :
    ∃ answer firstMoved secondMoved,
      left.next first = (answer, firstMoved) ∧
        right.next second = (answer, secondMoved) ∧
        related firstMoved secondMoved := by
  obtain ⟨sameAnswer, stillAlike⟩ := agrees.next first second alike
  exact ⟨_, _, _, rfl, Prod.ext sameAnswer.symm rfl, stillAlike⟩

/-- A cursor is drained move by move, and after each move the two stand at the
same item. -/
theorem Agrees.drainWithin (agrees : left.Agrees right related) (moves : Nat)
    {first : γ} {second : δ} (alike : related first second) :
    (left.drainWithin moves first).1 = (right.drainWithin moves second).1 ∧
      related (left.drainWithin moves first).2
          (right.drainWithin moves second).2 := by
  induction moves generalizing first second with
  | zero => exact ⟨rfl, agrees.close first second alike⟩
  | succ moves inductionHypothesis =>
      obtain ⟨answer, firstMoved, secondMoved, firstMoves, secondMoves,
          stillAlike⟩ :=
        agrees.exists_next alike
      have closed := agrees.close firstMoved secondMoved stillAlike
      unfold CursorMethods.drainWithin
      rw [firstMoves, secondMoves]
      cases answer with
      | error error => exact ⟨rfl, closed⟩
      | ok found =>
          cases found with
          | false => exact ⟨rfl, closed⟩
          | true =>
              dsimp only
              rw [agrees.position firstMoved secondMoved stillAlike]
              cases (right.position secondMoved).get with
              | error error => exact ⟨rfl, closed⟩
              | ok item =>
                  obtain ⟨sameItems, drained⟩ := inductionHypothesis stillAlike
                  rcases firstDrained : left.drainWithin moves firstMoved with
                      ⟨items, _⟩
                  rcases secondDrained :
                      right.drainWithin moves secondMoved with
                      ⟨others, _⟩
                  rw [firstDrained, secondDrained] at sameItems drained
                  dsimp only at sameItems drained ⊢
                  subst sameItems
                  cases items <;> exact ⟨rfl, drained⟩

theorem Agrees.perform (agrees : left.Agrees right related) (call : CursorCall)
    {first : γ} {second : δ} (alike : related first second) :
    (left.perform call first).1 = (right.perform call second).1 ∧
      related (left.perform call first).2 (right.perform call second).2 := by
  cases call with
  | next =>
      obtain ⟨sameAnswer, stillAlike⟩ := agrees.next first second alike
      exact ⟨congrArg (Except.map CursorReply.moved) sameAnswer, stillAlike⟩
  | get =>
      have samePosition := agrees.position first second alike
      exact ⟨congrArg (fun position => position.get.map CursorReply.item)
        samePosition, alike⟩
  | first | last | previous | absolute | isClosed => exact ⟨rfl, alike⟩
  | close | closeWithCause => exact ⟨rfl, agrees.close first second alike⟩
  | drain =>
      have sameExtent := agrees.extent first second alike
      have drained := agrees.drainWithin (right.extent second + 1) alike
      dsimp only [CursorMethods.perform, CursorMethods.drain]
      rw [sameExtent]
      exact ⟨congrArg (Except.map CursorReply.items) drained.1, drained.2⟩

/-- Cursors that are related answer all uses alike. -/
theorem Agrees.answers (agrees : left.Agrees right related)
    (calls : List CursorCall) {first : γ} {second : δ}
    (alike : related first second) :
    left.answers calls first = right.answers calls second := by
  induction calls generalizing first second with
  | nil => rfl
  | cons call rest inductionHypothesis =>
      obtain ⟨sameAnswer, stillAlike⟩ := agrees.perform call alike
      have samePosition := agrees.position _ _ stillAlike
      have sameState := congrArg Position.isClosed samePosition
      dsimp only [CursorMethods.answers]
      rw [sameAnswer, inductionHypothesis stillAlike]
      exact congrArg (fun closed => (_, closed) :: _) sameState

end CursorMethods

/-! ## Channels -/

namespace Channel

variable {α : Type} {channel : Channel α}

/-- The messages that are still to be taken, in their order. -/
def messages (channel : Channel α) : List (Answer α) :=
  channel.sent ++ channel.unsent

theorem capacity_ofMessages (buffer : Nat) (messages : List (Answer α)) :
    0 < (ofMessages buffer messages).capacity :=
  Nat.lt_of_lt_of_le Nat.zero_lt_one (Nat.le_max_right buffer 1)

theorem length_messages (channel : Channel α) :
    channel.messages.length = channel.extent :=
  List.length_append

theorem capacity_send (channel : Channel α) :
    channel.send.capacity = channel.capacity := by
  unfold send
  split
  · rfl
  · split <;> rfl

/-- Sending changes neither the messages nor their order. -/
theorem messages_send (channel : Channel α) :
    channel.send.messages = channel.messages := by
  unfold send
  split
  · rfl
  · rename_i message rest waiting
    split
    · simp [messages, waiting]
    · rfl

theorem capacity_sendMany (turns : Nat) (channel : Channel α) :
    (channel.sendMany turns).capacity = channel.capacity := by
  induction turns generalizing channel with
  | zero => rfl
  | succ turns inductionHypothesis =>
      rw [sendMany, inductionHypothesis, capacity_send]

theorem messages_sendMany (turns : Nat) (channel : Channel α) :
    (channel.sendMany turns).messages = channel.messages := by
  induction turns generalizing channel with
  | zero => rfl
  | succ turns inductionHypothesis =>
      rw [sendMany, inductionHypothesis, messages_send]

/-- When the cursor waits, one turn of the producer is enough, as the channel
has room then. -/
theorem take?_or_take?_send (room : 0 < channel.capacity) :
    (channel.messages = [] → channel.take?.or channel.send.take? = none) ∧
      ∀ message rest, channel.messages = message :: rest →
        ∃ taken, channel.take?.or channel.send.take? = some (message, taken) ∧
          taken.messages = rest ∧ taken.capacity = channel.capacity := by
  rcases channel with ⟨capacity, unsent, _ | ⟨message, others⟩⟩
  · rcases unsent with _ | ⟨message, others⟩
    · exact ⟨fun _ => rfl, fun message rest left => nomatch left⟩
    · refine ⟨fun nothing => (nomatch nothing), fun first rest left => ?_⟩
      have sent :
          send ⟨capacity, message :: others, []⟩ =
              ⟨capacity, others, [message]⟩ :=
        if_pos room
      rw [sent]
      cases left
      exact ⟨⟨capacity, others, []⟩, rfl, rfl, rfl⟩
  · refine ⟨fun nothing => (nomatch nothing), fun first rest left => ?_⟩
    cases left
    exact ⟨⟨capacity, unsent, others⟩, rfl, rfl, rfl⟩

/-- Whatever turns the producer has, the messages are taken in their order. -/
theorem pull_eq (turns : Channel α → Nat) (room : 0 < channel.capacity) :
    (channel.messages = [] → channel.pull turns = none) ∧
      ∀ message rest, channel.messages = message :: rest →
        ∃ taken, channel.pull turns = some (message, taken) ∧
          taken.messages = rest ∧ taken.capacity = channel.capacity := by
  have sameMessages := messages_sendMany (turns channel) channel
  have sameCapacity := capacity_sendMany (turns channel) channel
  rw [← sameCapacity] at room
  rw [← sameMessages, ← sameCapacity]
  exact take?_or_take?_send room

/-- Without room for a message the cursor would be told that there is none. -/
example :
    ((⟨0, [.ok 'a'], []⟩ : Channel Char).pull fun _ => 3).isNone = true := by
  decide

end Channel

/-! ## Streams -/

namespace StreamCursor

variable {α : Type}

/-- Whether a cursor that has its messages at hand stands where a cursor over a
channel stands, and over the channel come these messages. -/
structure Carries (direct : StreamCursor (List (Answer α)) α)
    (stream : StreamCursor (Channel α) α) : Prop where
  position : direct.position = stream.position
  feed : (direct.feed = none ∧ stream.feed = none) ∨
    ∃ channel,
      direct.feed = some channel.messages ∧ stream.feed = some channel ∧
      0 < channel.capacity

theorem Carries.bind_pull {direct : StreamCursor (List (Answer α)) α}
    {stream : StreamCursor (Channel α) α} (carries : Carries direct stream)
    (turns : Channel α → Nat) :
    (direct.feed.bind pullMessage = none ∧
      stream.feed.bind (Channel.pull turns) = none) ∨
      ∃ message channel,
        direct.feed.bind pullMessage = some (message, channel.messages) ∧
          stream.feed.bind (Channel.pull turns) = some (message, channel) ∧
            0 < channel.capacity := by
  obtain ⟨_, ⟨dropped, alsoDropped⟩ | ⟨channel, direct, fed, room⟩⟩ := carries
  · exact Or.inl ⟨by rw [dropped]; rfl, by rw [alsoDropped]; rfl⟩
  · rw [direct, fed]
    obtain ⟨ends, goesOn⟩ := Channel.pull_eq turns room
    cases left : channel.messages with
    | nil => exact Or.inl ⟨rfl, ends left⟩
    | cons message rest =>
        obtain ⟨taken, pulled, others, sameCapacity⟩ := goesOn message rest left
        rw [← others]
        rw [← sameCapacity] at room
        exact Or.inr ⟨message, taken, rfl, pulled, room⟩

theorem Carries.next {direct : StreamCursor (List (Answer α)) α}
    {stream : StreamCursor (Channel α) α} (carries : Carries direct stream)
    (turns : Channel α → Nat) :
    (direct.next pullMessage).1 = (stream.next (Channel.pull turns)).1 ∧
      Carries (direct.next pullMessage).2
          (stream.next (Channel.pull turns)).2 := by
  have pulled := carries.bind_pull turns
  have samePosition := carries.position
  unfold StreamCursor.next
  rw [← samePosition]
  cases direct.position with
  | closed | exhausted => exact ⟨rfl, carries⟩
  | before | on =>
      dsimp only
      obtain ⟨ends, alsoEnds⟩ | ⟨message, channel, direct, taken, room⟩ :=
        pulled
      · rw [ends, alsoEnds]
        exact ⟨rfl, rfl, Or.inl ⟨rfl, rfl⟩⟩
      · rw [direct, taken]
        cases message with
        | ok item => exact ⟨rfl, rfl, Or.inr ⟨channel, rfl, rfl, room⟩⟩
        | error error => exact ⟨rfl, rfl, Or.inl ⟨rfl, rfl⟩⟩

theorem agrees_channel (turns : Channel α → Nat) :
    messageMethods.Agrees (channelMethods turns) (Carries (α := α)) where
  next _ _ carries := carries.next turns
  position _ _ carries := carries.position
  close _ _ _ := ⟨rfl, Or.inl ⟨rfl, rfl⟩⟩
  extent direct stream carries := by
    show (direct.feed.map List.length).getD 0 =
      (stream.feed.map Channel.extent).getD 0
    obtain ⟨_, ⟨dropped, alsoDropped⟩ | ⟨channel, direct, fed, _⟩⟩ := carries
    · rw [dropped, alsoDropped]
      rfl
    · rw [direct, fed]
      exact channel.length_messages

theorem carries_ofMessages (messages : List (Answer α)) (buffer : Nat) :
    Carries (.ofFeed messages) (.ofFeed (.ofMessages buffer messages)) :=
  ⟨rfl, Or.inr ⟨_, rfl, rfl, Channel.capacity_ofMessages buffer messages⟩⟩

/-- What can be seen of a cursor depends neither on the length of the buffer nor
on the turns of the producer. -/
theorem answers_ofMessages (messages : List (Answer α)) (buffer : Nat)
    (turns : Channel α → Nat) (calls : List CursorCall) :
    (channelMethods turns).answers calls
      (.ofFeed (.ofMessages buffer messages)) =
      messageMethods.answers calls (.ofFeed messages) :=
  ((agrees_channel turns).answers calls
    (carries_ofMessages messages buffer)).symm

/-- Whether a cursor over messages stands where a cursor over a list stands, and
its messages are what is left of the list. -/
structure Follows (list : ListCursor α)
    (stream : StreamCursor (List (Answer α)) α) : Prop where
  position : list.position = stream.position
  rest :
    (IsUsable stream.position ∧ stream.feed = some (list.remaining.map .ok)) ∨
      ((stream.position = .exhausted ∨ stream.position = .closed) ∧
        stream.feed = none ∧
        list.remaining = [])

theorem Follows.next {list : ListCursor α}
    {stream : StreamCursor (List (Answer α)) α}
    (follows : Follows list stream) :
    list.next.1 = (stream.next pullMessage).1 ∧
      Follows list.next.2 (stream.next pullMessage).2 := by
  obtain ⟨remaining, position⟩ := list
  obtain ⟨feed, _⟩ := stream
  obtain ⟨rfl, ⟨usable, rfl⟩ | ⟨spent, rfl, rfl⟩⟩ := follows
  · have opened : position.isClosed = false := by
      rcases usable with rfl | ⟨item, rfl⟩ <;> rfl
    cases remaining with
    | nil =>
        have stops :
            ListCursor.next ⟨([] : List α), position⟩ =
                (.ok false, ⟨[], .exhausted⟩) := by
          simp [ListCursor.next, opened]
        have ends : pullMessage ([] : List (Answer α)) = none := rfl
        rw [stops, List.map_nil, next_of_none usable ends]
        exact ⟨rfl, rfl, Or.inr ⟨Or.inl rfl, rfl, rfl⟩⟩
    | cons item others =>
        have moves : ListCursor.next ⟨item :: others, position⟩ =
            (.ok true, ⟨others, .on item⟩) := by
          simp [ListCursor.next, opened]
        have taken : pullMessage ((item :: others).map Except.ok) =
            some ((.ok item, others.map .ok) :
              Answer α × List (Answer α)) :=
          rfl
        rw [moves, next_of_some usable taken]
        exact ⟨rfl, rfl, Or.inl ⟨Or.inr ⟨item, rfl⟩, rfl⟩⟩
  · rcases spent with rfl | rfl
    · exact ⟨rfl, rfl, Or.inr ⟨Or.inl rfl, rfl, rfl⟩⟩
    · exact ⟨rfl, rfl, Or.inr ⟨Or.inr rfl, rfl, rfl⟩⟩

theorem agrees_list :
    ListCursor.methods.Agrees messageMethods (Follows (α := α)) where
  next _ _ follows := follows.next
  position _ _ follows := follows.position
  close _ _ _ := ⟨rfl, Or.inr ⟨Or.inr rfl, rfl, rfl⟩⟩
  extent list stream follows := by
    show list.remaining.length = (stream.feed.map List.length).getD 0
    obtain ⟨_, ⟨_, fed⟩ | ⟨_, dropped, nothing⟩⟩ := follows
    · rw [fed, Option.map_some, Option.getD_some, List.length_map]
    · rw [dropped, nothing]
      rfl

/-- A cursor over a list and a cursor over a channel to which these items are
sent give the same answers to all uses, errors included, and are closed at the
same times, whatever the length of the buffer and the turns of the producer. -/
theorem list_and_channel_indistinguishable (items : List α) (buffer : Nat)
    (turns : Channel α → Nat) (calls : List CursorCall) :
    ListCursor.methods.answers calls (.ofList items) =
      (channelMethods turns).answers calls
          (.ofFeed (.ofMessages buffer (items.map .ok))) := by
  have follows : Follows (.ofList items) (.ofFeed (items.map .ok)) :=
    ⟨rfl, Or.inl ⟨Or.inl rfl, rfl⟩⟩
  rw [answers_ofMessages]
  exact agrees_list.answers calls follows

end StreamCursor

end CachedDirectory
