import CachedDirectory.Action
import CachedDirectory.Entity.Basic

/-!
# Authorities

An authority has the records that count. It finds a record by its id and lists
its records and edges page by page. Asking it may change it and may fail;
nothing is promised of its answers.
-/

namespace CachedDirectory

/-- Something that can be asked for records and edges. -/
class Authority (α : Type) where
  /-- The group with an id. -/
  group : String → Action α (Option Group)
  /-- The groups from a position on, up to a number of them. -/
  groups : Nat → Nat → Action α (List Group)
  /-- The user with an id. -/
  user : String → Action α (Option User)
  /-- The users from a position on, up to a number of them. -/
  users : Nat → Nat → Action α (List User)
  /-- The edges from a position on, up to a number of them. -/
  memberships : Nat → Nat → Action α (List Membership)
  /-- How many records and edges there are. A loop over them is given up after a
  number of rounds that grows with it. -/
  extent : α → Nat

namespace Authority

variable {α β : Type}

/-- Asks an authority, again if it cannot be reached. -/
def ask (question : Action α β) : Action α β :=
  question.repeated .query

end Authority

end CachedDirectory
