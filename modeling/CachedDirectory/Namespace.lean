import CachedDirectory.Search
import CachedDirectory.Settings

/-!
# The fixed entities

The root and the two containers are fixed by the settings and answered without
the store.
-/

namespace CachedDirectory

open Text

/-- The entities at the top of the directory. -/
structure Namespace where
  root : DomainRoot
  groupUnit : Container
  userUnit : Container
deriving DecidableEq, Repr

namespace Namespace

/-- The fixed entities that the settings describe. -/
def ofSettings (fixed : NamespaceSettings) : Namespace where
  root := ⟨fixed.domainId, fixed.domainDescription⟩
  groupUnit := ⟨.groupUnit, fixed.groupUnitId, fixed.groupUnitDescription⟩
  userUnit := ⟨.userUnit, fixed.userUnitId, fixed.userUnitDescription⟩

/-- The only entity of a kind that is not stored. -/
def singleton? (fixed : Namespace) : EntityKind → Option Entity
  | .domain => some (.domain fixed.root)
  | .groupUnit => some (.container fixed.groupUnit)
  | .userUnit => some (.container fixed.userUnit)
  | .group | .user => none

/-- What contains the entities of a kind; the root is contained in nothing. -/
def containerOf? (fixed : Namespace) : EntityKind → Option Entity
  | .domain => none
  | .groupUnit | .userUnit => fixed.singleton? .domain
  | .group => fixed.singleton? .groupUnit
  | .user => fixed.singleton? .userUnit

/-- The fixed entity of a kind, if it has the id. -/
def lookup (fixed : Namespace) (kind : EntityKind) (id : String) :
    Answer Entity :=
  match fixed.singleton? kind with
  | some entity =>
      if fold entity.id =
        fold id then .ok entity else .error (.notFound kind id)
  | none => .error (.notFound kind id)

/-- The fixed entities that a search asks for; at most one. -/
def search (fixed : Namespace) (converter : Converter)
    (request : SearchRequest) :
    Answer (List Entity) := do
  request.filter.check request.scope converter
  let found := (fixed.singleton? request.scope).toList.filter fun entity =>
    request.filter.evaluate converter entity
  return Window.cut request.window found

end Namespace

end CachedDirectory
