import CachedDirectory.Error
import CachedDirectory.Text.Ascii
import CachedDirectory.Text.Occurrence

/-!
# Dialects

The store speaks one of two dialects of SQL. They differ in the schema, in how
several values are joined into one cell, and in how a row is inserted or
replaced.
-/

namespace CachedDirectory

/-- The character between the values that are joined into one cell. -/
def valueSeparator : Char :=
  '\x1f'

/-- A dialect of SQL. -/
inductive Dialect where
  | sqlite
  | mysql
deriving DecidableEq, Repr

namespace Dialect

/-- The name of a dialect. -/
def name : Dialect → String
  | sqlite => "sqlite"
  | mysql => "mysql"

/-- The dialect with exactly this name. -/
def ofName? (text : String) : Option Dialect :=
  match text with
  | "sqlite" => some sqlite
  | "mysql" => some mysql
  | _ => none

/-- What stands before the first colon of an address, in small letters. -/
def scheme (url : String) : String :=
  Text.lowerAscii (String.ofList (url.toList.takeWhile (· != ':')))

/-- The dialect that the address of a store asks for. -/
def ofUrl (url : String) : Answer Dialect :=
  match scheme url with
  | "sqlite" => .ok sqlite
  | "mysql" | "mariadb" => .ok mysql
  | other =>
      .error (.accessFailure
        ("unsupported cache store scheme '" ++ other ++ "'"))

/-- Joins the values of an expression into one cell; nothing if there are no
values. -/
def groupConcat (dialect : Dialect) (expression : String) : String :=
  match dialect with
  | sqlite => "group_concat(" ++ expression ++ ", '\x1f')"
  | mysql =>
      "GROUP_CONCAT(" ++ expression ++ " ORDER BY " ++ expression ++
        " SEPARATOR '\x1f')"

/-- The statements that create the tables; each may be repeated. -/
def schema : Dialect → List String
  | sqlite =>
      [
        "
    CREATE TABLE IF NOT EXISTS cache_entities (
        entity_type TEXT NOT NULL,
        id_key TEXT NOT NULL,
        id TEXT NOT NULL,
        description TEXT,
        description_key TEXT,
        display_name TEXT,
        display_name_key TEXT,
        first_name TEXT,
        first_name_key TEXT,
        last_name TEXT,
        last_name_key TEXT,
        email TEXT,
        email_key TEXT,
        active INTEGER,
        sync_version INTEGER NOT NULL DEFAULT 1,
        synced_at INTEGER NOT NULL,
        PRIMARY KEY (entity_type, id_key)
    )
    ",
        "
    CREATE TABLE IF NOT EXISTS cache_memberships (
        group_key TEXT NOT NULL,
        member_type TEXT NOT NULL,
        member_key TEXT NOT NULL,
        synced_at INTEGER NOT NULL,
        PRIMARY KEY (group_key, member_type, member_key)
    )
    ",
        "CREATE INDEX IF NOT EXISTS idx_cache_memberships_member ON cache_memberships " ++
          "(member_type, member_key)",
        "
    CREATE TABLE IF NOT EXISTS cache_meta (
        name TEXT PRIMARY KEY,
        value TEXT NOT NULL
    )
    "
      ]
  | mysql =>
      [
        "
    CREATE TABLE IF NOT EXISTS cache_entities (
        entity_type VARCHAR(32) NOT NULL,
        id_key VARCHAR(255) CHARACTER SET utf8mb4 COLLATE utf8mb4_bin NOT NULL,
        id VARCHAR(255) NOT NULL,
        description TEXT,
        description_key TEXT CHARACTER SET utf8mb4 COLLATE utf8mb4_bin,
        display_name VARCHAR(255),
        display_name_key VARCHAR(255) CHARACTER SET utf8mb4 COLLATE utf8mb4_bin,
        first_name VARCHAR(255),
        first_name_key VARCHAR(255) CHARACTER SET utf8mb4 COLLATE utf8mb4_bin,
        last_name VARCHAR(255),
        last_name_key VARCHAR(255) CHARACTER SET utf8mb4 COLLATE utf8mb4_bin,
        email VARCHAR(255),
        email_key VARCHAR(255) CHARACTER SET utf8mb4 COLLATE utf8mb4_bin,
        active TINYINT,
        sync_version BIGINT NOT NULL DEFAULT 1,
        synced_at BIGINT NOT NULL,
        PRIMARY KEY (entity_type, id_key)
    )
    ",
        "
    CREATE TABLE IF NOT EXISTS cache_memberships (
        group_key VARCHAR(255) CHARACTER SET utf8mb4 COLLATE utf8mb4_bin NOT NULL,
        member_type VARCHAR(32) NOT NULL,
        member_key VARCHAR(255) CHARACTER SET utf8mb4 COLLATE utf8mb4_bin NOT NULL,
        synced_at BIGINT NOT NULL,
        PRIMARY KEY (group_key, member_type, member_key),
        INDEX idx_cache_memberships_member (member_type, member_key)
    )
    ",
        "
    CREATE TABLE IF NOT EXISTS cache_meta (
        name VARCHAR(64) PRIMARY KEY,
        value TEXT NOT NULL
    )
    "
      ]

end Dialect

end CachedDirectory
