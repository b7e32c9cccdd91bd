import CachedDirectory.Text.Ascii
import CachedDirectory.Text.Blank

/-!
# Kinds of entities

A directory has one domain root, one container for its groups and one for its
users, and any number of groups and users. Only groups and users are stored; the
other three are fixed by the settings.
-/

namespace CachedDirectory

/-- What an entity is. -/
inductive EntityKind where
  | domain
  | groupUnit
  | userUnit
  | group
  | user
deriving DecidableEq, Repr

namespace EntityKind

/-- Every kind, from the root downwards. -/
def all : List EntityKind :=
  [domain, groupUnit, userUnit, group, user]

/-- The name under which a kind is stored and shown. -/
def name : EntityKind → String
  | domain => "DOMAIN"
  | groupUnit => "GROUP_UNIT"
  | userUnit => "USER_UNIT"
  | group => "GROUP"
  | user => "USER"

/-- The kind with exactly this name. -/
def ofName? (text : String) : Option EntityKind :=
  all.find? fun kind => kind.name == text

/-- The kind that a text names: blanks at its ends and the case of its letters
do not matter. -/
def parse? (text : String) : Option EntityKind :=
  all.find? fun kind => Text.sameIgnoringCase kind.name (Text.trim text)

/-- Whether entities of this kind are rows of the store. -/
def isPersisted : EntityKind → Bool
  | group | user => true
  | domain | groupUnit | userUnit => false

theorem ofName?_name (kind : EntityKind) : ofName? kind.name = some kind := by
  cases kind <;> decide

end EntityKind

/-- What a member of a group is. -/
inductive MemberKind where
  | user
  | group
deriving DecidableEq, Repr

namespace MemberKind

/-- A member is an entity of this kind. -/
def entityKind : MemberKind → EntityKind
  | user => .user
  | group => .group

/-- The name under which a member kind is stored and shown. -/
def name (kind : MemberKind) : String :=
  kind.entityKind.name

/-- The member kind with exactly this name. -/
def ofName? (text : String) : Option MemberKind :=
  match EntityKind.ofName? text with
  | some .user => some user
  | some .group => some group
  | _ => none

/-- The member kind that a text names, read like an entity kind. -/
def parse? (text : String) : Option MemberKind :=
  match EntityKind.parse? text with
  | some .user => some user
  | some .group => some group
  | _ => none

theorem ofName?_name (kind : MemberKind) : ofName? kind.name = some kind := by
  cases kind <;> decide

theorem name_injective {left right : MemberKind}
    (equality : left.name = right.name) :
    left = right := by
  have names := congrArg ofName? equality
  simpa [ofName?_name] using names

end MemberKind

end CachedDirectory
