import CachedDirectory.Authority.Basic
import CachedDirectory.Cursor.List
import CachedDirectory.Namespace
import CachedDirectory.Text.Order

/-!
# Live answers

A live directory asks the authority every time and evaluates filters itself. A
search reads all records of a kind; the groups of a member are found by a walk
that visits each group once, breadth first, and passes over groups that the
authority does not know.
-/

namespace CachedDirectory

open Text

/-- A directory without a store. -/
structure Live where
  /-- The fixed entities. -/
  fixed : Namespace
  converter : Converter

namespace Live

/-- How many records are asked for at once. -/
def scanLength : Nat :=
  500

/-- The ids of the groups that an entity is directly in, as its record has
them. -/
def parents : Entity → List String
  | .group group => group.memberOf
  | .user user => user.memberOf
  | .domain _ | .container _ => []

variable {α : Type} [Authority α]

/-- The record of a kind with an id, if there is one. -/
def fetch (live : Live) (kind : EntityKind) (id : String) :
    Action α (Option Entity) :=
  match kind with
  | .group => do
      let found ← Authority.ask (Authority.group id)
      return found.map .group
  | .user => do
      let found ← Authority.ask (Authority.user id)
      return found.map .user
  | .domain | .groupUnit | .userUnit => pure (live.fixed.singleton? kind)

/-- The record of a kind with an id. -/
def require (live : Live) (kind : EntityKind) (id : String) :
    Action α Entity := do
  match ← live.fetch kind id with
  | some entity => return entity
  | none => Action.fail (.notFound kind id)

/-- The entity of a kind with an id. -/
def lookup (live : Live) (kind : EntityKind) (id : String) : Action α Entity :=
  if kind.isPersisted then live.require kind id else
    .ofAnswer (live.fixed.lookup kind id)

/-- The records of a kind from a position on. -/
def scanPage (kind : EntityKind) (position : Nat) : Action α (List Entity) :=
  match kind with
  | .group => do
      let groups ← Authority.ask (Authority.groups position scanLength)
      return groups.map .group
  | _ => do
      let users ← Authority.ask (Authority.users position scanLength)
      return users.map .user

/-- All records of a kind, given those that were read before. -/
def scan (kind : EntityKind) :
    Nat → List Entity → α → Option (Answer (List Entity)) × α
  | 0, _, authority => (none, authority)
  | rounds + 1, known, authority =>
      match (scanPage kind known.length).run authority with
      | (.ok page, asked) =>
          if page.length < scanLength then
            (some (.ok (known ++ page)), asked)
          else
            scan kind rounds (known ++ page) asked
      | (.error error, asked) => (some (.error error), asked)

/-- The number of rounds for a loop over what the authority has. -/
def rounds (authority : α) : Nat :=
  2 * Authority.extent authority + 8

/-- The entities among all records of a kind that a search asks for. -/
def select (live : Live) (request : SearchRequest) (records : List Entity) :
    List Entity :=
  let found :=
    records.filter fun entity => request.filter.evaluate live.converter entity
  Window.cut request.window (inOrder (fun entity => fold entity.id) found)

/-- A cursor over the entities that a search asks for. -/
def search (live : Live) (request : SearchRequest) (authority : α) :
    Option (Answer (ListCursor Entity)) × α :=
  if request.scope.isPersisted then
    match request.filter.check request.scope live.converter with
    | .ok _ =>
        let (answer, asked) :=
          scan request.scope (rounds authority) [] authority
        (answer.map fun scanned =>
            scanned.map fun records => .ofList (live.select request records),
          asked)
    | .error error => (some (.error error), authority)
  else
    let found := live.fixed.search live.converter request
    (some (found.map .ofList), authority)

/-- A walk over groups. -/
structure Walk where
  /-- The ids of groups still to visit. -/
  pending : List String
  /-- The folded ids of those that were visited. -/
  seen : List String := []
  /-- The ids of the groups that were found. -/
  found : List String := []
deriving DecidableEq, Repr

/-- Visits the pending groups and those that they lead to, in at most a number
of rounds. -/
def Walk.run (live : Live) : Nat → Walk → α → Option (Answer (List String)) × α
  | _, ⟨[], _, found⟩, authority => (some (.ok found), authority)
  | 0, _, authority => (none, authority)
  | rounds + 1, ⟨id :: pending, seen, found⟩, authority =>
      let key := fold id
      if seen.contains key then
        Walk.run live rounds ⟨pending, seen, found⟩ authority
      else
        match (live.fetch .group id).run authority with
        | (.ok (some group), asked) =>
            Walk.run live rounds
              ⟨pending ++ parents group, key :: seen, found ++ [group.id]⟩ asked
        | (.ok none, asked) =>
            Walk.run live rounds ⟨pending, key :: seen, found⟩ asked
        | (.error error, asked) => (some (.error error), asked)

/-- The groups that a member belongs to, directly or through groups, in the
order of their folded ids. -/
def effectiveGroups (live : Live) (kind : MemberKind) (id : String)
    (authority : α) :
    Option (Answer (List String)) × α :=
  match (live.require kind.entityKind id).run authority with
  | (.ok member, asked) =>
      let (answer, walked) :=
        Walk.run live (rounds authority) ⟨parents member, [], []⟩ asked
      (answer.map fun found => found.map (inOrder fold), walked)
  | (.error error, asked) => (some (.error error), asked)

end Live

end CachedDirectory
