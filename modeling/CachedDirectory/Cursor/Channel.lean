import CachedDirectory.Cursor.Stream

/-!
# Cursors over channels

A producer sends its messages over a channel, from which a stream cursor takes
them one by one. The channel holds a number of messages, at least one: its
producer waits while it is full, the cursor while it is empty. There is a bound
to that number, beyond which the opening of a channel is aborted; channels are
taken to be within it. How far the producer has come when the cursor takes a
message is left open.
-/

namespace CachedDirectory

/-- A channel and what its producer has still to send. -/
structure Channel (α : Type) where
  /-- How many messages may be under way. -/
  capacity : Nat
  unsent : List (Answer α)
  /-- What was sent and is still to be taken. -/
  sent : List (Answer α) := []

namespace Channel

variable {α : Type}

/-- How many messages a channel holds at most. -/
def capacityBound : Nat :=
  2305843009213693951

/-- A channel over which nothing was sent yet. A buffer of no length counts as
one of length one. -/
def ofMessages (buffer : Nat) (messages : List (Answer α)) : Channel α :=
  ⟨max buffer 1, messages, []⟩

/-- The producer sends its next message, unless the channel is full. -/
def send (channel : Channel α) : Channel α :=
  match channel.unsent with
  | [] => channel
  | message :: rest =>
      if channel.sent.length < channel.capacity then
        { channel with unsent := rest, sent := channel.sent ++ [message] }
      else
        channel

/-- The producer has a number of turns. -/
def sendMany : Nat → Channel α → Channel α
  | 0, channel => channel
  | turns + 1, channel => sendMany turns channel.send

/-- Takes the first message that was sent. -/
def take? (channel : Channel α) : Option (Answer α × Channel α) :=
  match channel.sent with
  | [] => none
  | message :: rest => some (message, { channel with sent := rest })

/-- Takes the next message after the producer had some turns. If none was sent,
the producer has another turn; there is no message if it has come to its end. -/
def pull (turns : Channel α → Nat) (channel : Channel α) :
    Option (Answer α × Channel α) :=
  let ahead := channel.sendMany (turns channel)
  ahead.take?.or ahead.send.take?

/-- How many messages are still to be taken. -/
def extent (channel : Channel α) : Nat :=
  channel.sent.length + channel.unsent.length

end Channel

namespace StreamCursor

variable {α : Type}

/-- Stream cursors over channels, given how many turns the producer has before a
message is taken. -/
def channelMethods (turns : Channel α → Nat) :
    CursorMethods (StreamCursor (Channel α) α) α :=
  methods (Channel.pull turns) Channel.extent

end StreamCursor

end CachedDirectory
