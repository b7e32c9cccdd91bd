import CachedDirectory.Json

/-!
# Settings

The settings of a replica, all with defaults, and the identity of the three
fixed entities. They are read from JSON; a number must fit the width that its
setting has.
-/

namespace CachedDirectory

open Json

/-- The ids and descriptions of the root and of the two containers. -/
structure NamespaceSettings where
  domainId : String := "directory"
  domainDescription : String := "Directory root"
  groupUnitId : String := "groups"
  groupUnitDescription : String := "Groups"
  userUnitId : String := "users"
  userUnitDescription : String := "Users"
deriving DecidableEq, Repr

/-- The settings of a replica. -/
structure Settings where
  /-- The address of the store. -/
  sqlUrl : String := "sqlite://directory-cache.db?mode=rwc"
  maxConnections : Nat := 8
  /-- How long to wait for a connection. -/
  acquireTimeoutSeconds : Nat := 10
  /-- How many records a full synchronization asks for at once. -/
  syncPageSize : Nat := 500
  /-- How many rows a cursor reads at once. -/
  cursorBuffer : Nat := 64
  /-- How many resolved memberships are remembered. -/
  memoEntries : Nat := 1024
  /-- For how long a resolved membership is remembered. -/
  memoAgeSeconds : Nat := 60
  fixed : NamespaceSettings := {}
deriving DecidableEq, Repr

/-- The largest number of 64 bits. -/
def maxWord : Nat :=
  18446744073709551615

/-- The largest number of 32 bits. -/
def maxHalfWord : Nat :=
  4294967295

namespace NamespaceSettings

/-- The ids and descriptions as JSON. -/
def toJson (fixed : NamespaceSettings) : Json :=
  object
    [
      ("domain_id", string fixed.domainId),
      ("domain_description", string fixed.domainDescription),
      ("group_unit_id", string fixed.groupUnitId),
      ("group_unit_description", string fixed.groupUnitDescription),
      ("user_unit_id", string fixed.userUnitId),
      ("user_unit_description", string fixed.userUnitDescription)
    ]

/-- The ids and descriptions that JSON writes. -/
def ofJson? (json : Json) : Option NamespaceSettings :=
  let standard : NamespaceSettings := {}
  match json.fields?
      [
        ("domain_id", .defaulted), ("domain_description", .defaulted),
        ("group_unit_id", .defaulted), ("group_unit_description", .defaulted),
        ("user_unit_id", .defaulted), ("user_unit_description", .defaulted)
      ] with
  | some [domainId, domainText, groupId, groupText, userId, userText] => do
      let domainId ← withDefault string? standard.domainId domainId
      let domainText ← withDefault string? standard.domainDescription domainText
      let groupId ← withDefault string? standard.groupUnitId groupId
      let groupText ←
        withDefault string? standard.groupUnitDescription groupText
      let userId ← withDefault string? standard.userUnitId userId
      let userText ← withDefault string? standard.userUnitDescription userText
      return ⟨domainId, domainText, groupId, groupText, userId, userText⟩
  | _ => none

end NamespaceSettings

namespace Settings

/-- Settings as JSON. -/
def toJson (settings : Settings) : Json :=
  object
    [
      ("sql_url", string settings.sqlUrl),
      ("max_connections", ofNat settings.maxConnections),
      ("acquire_timeout_secs", ofNat settings.acquireTimeoutSeconds),
      ("sync_page_size", ofNat settings.syncPageSize),
      ("cursor_buffer", ofNat settings.cursorBuffer),
      ("resolution_cache_max_entries", ofNat settings.memoEntries),
      ("resolution_cache_max_age_secs", ofNat settings.memoAgeSeconds),
      ("namespace", settings.fixed.toJson)
    ]

/-- The settings that JSON writes. -/
def ofJson? (json : Json) : Option Settings :=
  let standard : Settings := {}
  match json.fields?
      [
        ("sql_url", .defaulted), ("max_connections", .defaulted),
        ("acquire_timeout_secs", .defaulted), ("sync_page_size", .defaulted),
        ("cursor_buffer", .defaulted),
          ("resolution_cache_max_entries", .defaulted),
        ("resolution_cache_max_age_secs", .defaulted), ("namespace", .defaulted)
      ] with
  | some [url, connections, timeout, pageSize, buffer, entries, age,
      fixed] => do
      let url ← withDefault string? standard.sqlUrl url
      let connections ←
        withDefault (natural? maxHalfWord) standard.maxConnections connections
      let timeout ←
        withDefault (natural? maxWord) standard.acquireTimeoutSeconds timeout
      let pageSize ←
        withDefault (natural? maxWord) standard.syncPageSize pageSize
      let buffer ← withDefault (natural? maxWord) standard.cursorBuffer buffer
      let entries ← withDefault (natural? maxWord) standard.memoEntries entries
      let age ← withDefault (natural? maxWord) standard.memoAgeSeconds age
      let fixed ← withDefault NamespaceSettings.ofJson? standard.fixed fixed
      return ⟨url, connections, timeout, pageSize, buffer, entries, age, fixed⟩
  | _ => none

end Settings

end CachedDirectory
