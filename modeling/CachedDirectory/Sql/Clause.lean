import CachedDirectory.Sql.Dialect
import CachedDirectory.Sql.Statement

/-!
# The catalogue of statements

Every statement that the replica runs, searches apart, has a place in this
catalogue. Its text is fixed by the dialect; its values are bound by name.
-/

namespace CachedDirectory

/-- A statement of the catalogue. -/
inductive Clause where
  | entityUpsert
  | entitySelect
  | entityExists
  | entityCount
  | entityDelete
  | entityDeleteType
  | entityDeleteAll
  | membershipUpsert
  | membershipDelete
  | membershipDeleteMember
  | membershipDeleteGroup
  | membershipDeleteMemberType
  | membershipDeleteAll
  | membershipCopy
  | membershipPage
  | membershipPageAfter
  | membershipEffectiveGroups
  | metaGet
  | metaPut
deriving DecidableEq, Repr

namespace Clause

/-- Every statement of the catalogue. -/
def all : List Clause :=
  [
    entityUpsert, entitySelect, entityExists, entityCount, entityDelete,
      entityDeleteType,
    entityDeleteAll, membershipUpsert, membershipDelete, membershipDeleteMember,
    membershipDeleteGroup, membershipDeleteMemberType, membershipDeleteAll,
      membershipCopy,
    membershipPage, membershipPageAfter, membershipEffectiveGroups,
      metaGet, metaPut
  ]

/-- The name under which a statement is found. -/
def name : Clause → String
  | entityUpsert => "entity.upsert"
  | entitySelect => "entity.select"
  | entityExists => "entity.exists"
  | entityCount => "entity.count"
  | entityDelete => "entity.delete"
  | entityDeleteType => "entity.delete_type"
  | entityDeleteAll => "entity.delete_all"
  | membershipUpsert => "membership.upsert"
  | membershipDelete => "membership.delete"
  | membershipDeleteMember => "membership.delete_member"
  | membershipDeleteGroup => "membership.delete_group"
  | membershipDeleteMemberType => "membership.delete_member_type"
  | membershipDeleteAll => "membership.delete_all"
  | membershipCopy => "membership.copy"
  | membershipPage => "membership.page"
  | membershipPageAfter => "membership.page_after"
  | membershipEffectiveGroups => "membership.effective_groups"
  | metaGet => "meta.get"
  | metaPut => "meta.put"

/-- The statement with this name. -/
def ofName? (text : String) : Option Clause :=
  all.find? fun clause => clause.name == text

/-- What is read of an entity, named `e`: its own cells, and the ids of its
groups and of its members joined into one cell each. -/
def entityProjection (dialect : Dialect) : String :=
  "SELECT e.entity_type, e.id_key, e.id, e.description, e.display_name, " ++
    "e.first_name, e.last_name, e.email, e.active, e.sync_version, (SELECT " ++
    dialect.groupConcat "g.id" ++
    " FROM cache_memberships m " ++
    "JOIN cache_entities g " ++
    "ON g.entity_type = 'GROUP' AND g.id_key = m.group_key " ++
    "WHERE m.member_type = e.entity_type AND m.member_key = e.id_key) " ++
    "AS member_of, (SELECT " ++
    dialect.groupConcat "x.id" ++
    " FROM cache_memberships m " ++
    "JOIN cache_entities x " ++
    "ON x.entity_type = m.member_type AND x.id_key = m.member_key " ++
    "WHERE e.entity_type = 'GROUP' AND m.group_key = e.id_key) AS members " ++
    "FROM cache_entities e"

/-- What is read of an edge: the ids of both ends, and its keys. -/
def membershipProjection : String :=
  "SELECT g.id AS group_id, m.member_type, x.id AS member_id, " ++
    "m.group_key, m.member_key FROM cache_memberships m " ++
    "JOIN cache_entities g " ++
    "ON g.entity_type = 'GROUP' AND g.id_key = m.group_key " ++
    "JOIN cache_entities x " ++
    "ON x.entity_type = m.member_type AND x.id_key = m.member_key"

/-- The order and the length of a page of edges. -/
def membershipOrder : String :=
  "ORDER BY m.group_key, m.member_type, m.member_key LIMIT :limit"

/-- The insertion of an entity, up to what happens if its key is taken. -/
def entityInsertion : String :=
  "INSERT INTO cache_entities (entity_type, id_key, id, description, " ++
    "description_key, display_name, display_name_key, first_name, " ++
    "first_name_key, last_name, last_name_key, email, email_key, active, " ++
    "sync_version, synced_at) " ++
    "VALUES (:entity_type, :id_key, :id, :description, :description_key, " ++
    ":display_name, :display_name_key, :first_name, :first_name_key, " ++
    ":last_name, :last_name_key, :email, :email_key, :active, 1, :synced_at) "

/-- The insertion of an edge, up to what happens if it is there. -/
def membershipInsertion : String :=
  "INSERT INTO cache_memberships " ++
    "(group_key, member_type, member_key, synced_at) " ++
    "VALUES (:group_key, :member_type, :member_key, :synced_at) "

/-- What is copied when a member receives the groups of another. -/
def membershipSource : String :=
  "INTO cache_memberships (group_key, member_type, member_key, synced_at) " ++
    "SELECT group_key, member_type, :target_key, :synced_at " ++
    "FROM cache_memberships " ++
    "WHERE member_type = :member_type AND member_key = :source_key"

/-- The text of a statement of the catalogue. -/
def text : Dialect → Clause → String
  | .sqlite, entityUpsert =>
      entityInsertion ++
        "ON CONFLICT(entity_type, id_key) DO UPDATE SET " ++
        "id = excluded.id, description = excluded.description, " ++
        "description_key = excluded.description_key, " ++
        "display_name = excluded.display_name, " ++
        "display_name_key = excluded.display_name_key, " ++
        "first_name = excluded.first_name, " ++
        "first_name_key = excluded.first_name_key, " ++
        "last_name = excluded.last_name, " ++
        "last_name_key = excluded.last_name_key, " ++
        "email = excluded.email, email_key = excluded.email_key, " ++
        "active = excluded.active, " ++
        "sync_version = cache_entities.sync_version + 1, " ++
        "synced_at = excluded.synced_at"
  | .mysql, entityUpsert =>
      entityInsertion ++
        "ON DUPLICATE KEY UPDATE " ++
        "id = VALUES(id), description = VALUES(description), " ++
        "description_key = VALUES(description_key), " ++
        "display_name = VALUES(display_name), " ++
        "display_name_key = VALUES(display_name_key), " ++
        "first_name = VALUES(first_name), " ++
        "first_name_key = VALUES(first_name_key), " ++
        "last_name = VALUES(last_name), " ++
        "last_name_key = VALUES(last_name_key), " ++
        "email = VALUES(email), email_key = VALUES(email_key), " ++
        "active = VALUES(active), sync_version = sync_version + 1, " ++
        "synced_at = VALUES(synced_at)"
  | dialect, entitySelect =>
      entityProjection dialect ++
        " WHERE e.entity_type = :entity_type AND e.id_key = :id_key"
  | _, entityExists =>
      "SELECT COUNT(*) AS n FROM cache_entities " ++
        "WHERE entity_type = :entity_type AND id_key = :id_key"
  | _, entityCount =>
      "SELECT COUNT(*) AS n FROM cache_entities " ++
        "WHERE entity_type = :entity_type"
  | _, entityDelete =>
      "DELETE FROM cache_entities " ++
        "WHERE entity_type = :entity_type AND id_key = :id_key"
  | _, entityDeleteType =>
      "DELETE FROM cache_entities WHERE entity_type = :entity_type"
  | _, entityDeleteAll => "DELETE FROM cache_entities"
  | .sqlite, membershipUpsert =>
      membershipInsertion ++
        "ON CONFLICT(group_key, member_type, member_key) DO UPDATE SET " ++
        "synced_at = excluded.synced_at"
  | .mysql, membershipUpsert =>
      membershipInsertion ++
        "ON DUPLICATE KEY UPDATE synced_at = VALUES(synced_at)"
  | _, membershipDelete =>
      "DELETE FROM cache_memberships " ++
        "WHERE group_key = :group_key AND member_type = :member_type " ++
        "AND member_key = :member_key"
  | _, membershipDeleteMember =>
      "DELETE FROM cache_memberships " ++
        "WHERE member_type = :member_type AND member_key = :member_key"
  | _, membershipDeleteGroup =>
      "DELETE FROM cache_memberships WHERE group_key = :group_key"
  | _, membershipDeleteMemberType =>
      "DELETE FROM cache_memberships WHERE member_type = :member_type"
  | _, membershipDeleteAll => "DELETE FROM cache_memberships"
  | .sqlite, membershipCopy =>
      "INSERT " ++ membershipSource ++ " ON CONFLICT DO NOTHING"
  | .mysql, membershipCopy => "INSERT IGNORE " ++ membershipSource
  | _, membershipPage => membershipProjection ++ " " ++ membershipOrder
  | _, membershipPageAfter =>
      membershipProjection ++
        " WHERE m.group_key > :group_key " ++
        "OR (m.group_key = :group_key AND (m.member_type > :member_type " ++
        "OR (m.member_type = :member_type AND m.member_key > :member_key))) " ++
        membershipOrder
  | _, membershipEffectiveGroups =>
      "WITH RECURSIVE ancestry (group_key) AS ( " ++
        "SELECT m.group_key FROM cache_memberships m " ++
        "WHERE m.member_type = :member_type AND m.member_key = :member_key " ++
        "UNION " ++
        "SELECT m.group_key FROM cache_memberships m " ++
        "JOIN ancestry a " ++
        "ON m.member_type = 'GROUP' AND m.member_key = a.group_key " ++
        ") " ++
        "SELECT g.id FROM ancestry a " ++
        "JOIN cache_entities g " ++
        "ON g.entity_type = 'GROUP' AND g.id_key = a.group_key " ++
        "ORDER BY g.id_key"
  | _, metaGet => "SELECT value FROM cache_meta WHERE name = :name"
  | .sqlite, metaPut =>
      "INSERT INTO cache_meta (name, value) VALUES (:name, :value) " ++
        "ON CONFLICT(name) DO UPDATE SET value = excluded.value"
  | .mysql, metaPut =>
      "INSERT INTO cache_meta (name, value) VALUES (:name, :value) " ++
        "ON DUPLICATE KEY UPDATE value = VALUES(value)"

/-- The statement, with nothing bound. -/
def statement (dialect : Dialect) (clause : Clause) : Statement :=
  ⟨clause.text dialect, [], []⟩

theorem ofName?_name (clause : Clause) : ofName? clause.name = some clause := by
  cases clause <;> decide

end Clause

namespace Statement

/-- The statement of the catalogue with this name. -/
def ofClause (dialect : Dialect) (name : String) : Answer Statement :=
  match Clause.ofName? name with
  | some clause => .ok (clause.statement dialect)
  | none => .error (.internal ("unknown query clause '" ++ name ++ "'"))

end Statement

end CachedDirectory
