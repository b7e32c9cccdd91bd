import CachedDirectory.Authority.Roster

/-!
# Unreliable authorities

An unreliable authority answers like a roster, except that a question may fail
with an error that was planned for it, and that a page may be longer than asked
for. It counts the questions.
-/

namespace CachedDirectory

/-- A question to an authority. -/
inductive Question where
  | group
  | groups
  | user
  | users
  | memberships
deriving DecidableEq, Repr

namespace Question

/-- The question with this name. -/
def ofName? (text : String) : Option Question :=
  match text with
  | "group" => some group
  | "groups" => some groups
  | "user" => some user
  | "users" => some users
  | "memberships" => some memberships
  | _ => none

end Question

/-- A roster that fails as planned. -/
structure Unreliable where
  roster : Roster := {}
  /-- The errors still to come, each for the next question of its sort. -/
  failures : List (Question × DirectoryError) := []
  /-- Whether a page has everything from its position on. -/
  isOverlong : Bool := false
  /-- How many questions were asked. -/
  questions : Nat := 0
deriving DecidableEq, Repr

namespace Unreliable

/-- The authority with errors planned for the next questions of a sort. -/
def plan (authority : Unreliable) (question : Question)
    (errors : List DirectoryError) :
    Unreliable :=
  { authority with
    failures :=
      authority.failures ++ errors.map fun error => (question, error) }

/-- The authority with its roster changed. -/
def change (edit : Roster → Roster) (authority : Unreliable) : Unreliable :=
  { authority with roster := edit authority.roster }

/-- Answers a question, or fails with the error that was planned for it. -/
def answered {α : Type} (question : Question) (answer : Unreliable → Answer α) :
    Action Unreliable α :=
  ⟨fun authority =>
    let asked := { authority with questions := authority.questions + 1 }
    match authority.failures.find? fun (planned, _) => planned == question with
    | some (planned, error) =>
        (.error error,
          { asked with failures := asked.failures.erase (planned, error) })
    | none => (answer asked, asked)⟩

/-- What the roster answers. -/
def consult {α : Type} (action : Action Roster α) (authority : Unreliable) :
    Answer α :=
  (action.run authority.roster).1

/-- The length of a page for which a number of items was asked. -/
def pageLength (authority : Unreliable) (length : Nat) : Nat :=
  if authority.isOverlong then authority.roster.size else length

instance : Authority Unreliable where
  group id := answered .group (consult (Authority.group id))
  groups start length :=
    answered .groups fun authority =>
      authority.consult (Authority.groups start (authority.pageLength length))
  user id := answered .user (consult (Authority.user id))
  users start length :=
    answered .users fun authority =>
      authority.consult (Authority.users start (authority.pageLength length))
  memberships start length :=
    answered .memberships fun authority =>
      authority.consult
        (Authority.memberships start (authority.pageLength length))
  extent authority := authority.roster.size

end Unreliable

end CachedDirectory
