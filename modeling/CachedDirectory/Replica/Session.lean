import CachedDirectory.Authority.Basic
import CachedDirectory.Replica.Reading

/-!
# Sessions

A session is a replica together with the authority from which it is filled. The
paged loops over the authority take at most a given number of rounds; a loop
that is not done by then has no answer.
-/

namespace CachedDirectory

/-- A replica and its authority. -/
structure Session (α : Type) where
  replica : Replica
  authority : α

namespace Session

variable {α β : Type}

/-- An action on the replica alone. -/
def onReplica (action : Action Replica β) : Action (Session α) β :=
  action.onPart (fun session => session.replica) fun replica session =>
    { session with replica := replica }

/-- A question to the authority. -/
def ask (question : Action α β) : Action (Session α) β :=
  (Authority.ask question).onPart (fun session => session.authority)
    fun authority session =>
    { session with authority := authority }

end Session

/-- Takes page after page from a position on, each beginning where the one
before ended, until one is short. The answer is the position at the end. -/
def pageThrough {σ : Type} (page : Nat → Action σ Nat) (length : Nat) :
    Nat → Nat → σ → Option (Answer Nat) × σ
  | 0, _, state => (none, state)
  | rounds + 1, position, state =>
      match (page position).run state with
      | (.ok taken, after) =>
          if taken < length then
            (some (.ok (position + taken)), after)
          else
            pageThrough page length rounds (position + taken) after
      | (.error error, after) => (some (.error error), after)

end CachedDirectory
