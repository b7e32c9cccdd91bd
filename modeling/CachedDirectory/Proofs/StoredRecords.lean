import CachedDirectory.Proofs.Actions
import CachedDirectory.Proofs.Comparisons
import CachedDirectory.Store.Tables
import Mathlib.Data.List.Nodup

/-!
# What a store holds

The rows that records are stored as, and the invariant of a store that is filled
with them: every row is that of a group or a user whose id is not blank, no two
rows have the same place, no two edges are equal, and both ends of every edge
are there. No constraint of the store enforces any of this, so each change of
the tables has a lemma of its own.
-/

namespace CachedDirectory

open Text

theorem EntityKind.name_injective {left right : EntityKind}
    (equality : left.name = right.name) :
    left = right := by
  have names := congrArg ofName? equality
  simpa [ofName?_name] using names

theorem storableKey_eq_ok_iff {kind : EntityKind} {id key : String} :
    storableKey kind id = .ok key ↔ isBlank id = false ∧ key = fold id := by
  unfold storableKey
  cases blank : isBlank id with
  | true => simp
  | false => simp [eq_comm]

namespace EntityRow

/-- Where a row stands in its table. -/
def place (row : EntityRow) : SqlValue × SqlValue :=
  (row.kind, row.key)

/-- The rows that records are stored as, under their folded ids. -/
inductive IsRecord : EntityRow → Prop
  | group (group : Group) (version : Nat) (named : isBlank group.id = false) :
      IsRecord { ofGroup (fold group.id) group with version := version }
  | user (user : User) (version : Nat) (named : isBlank user.id = false) :
      IsRecord { ofUser (fold user.id) user with version := version }

theorem samePlace_iff {left right : EntityRow} :
    left.samePlace right = true ↔ left.place = right.place := by
  simp [samePlace, place]

@[simp]
theorem place_withVersion (row : EntityRow) (version : Nat) :
    { row with version := version }.place = row.place :=
  rfl

theorem IsRecord.withVersion {row : EntityRow} (record : row.IsRecord)
    (version : Nat) :
    { row with version := version }.IsRecord := by
  cases record with
  | group group _ named => exact .group group version named
  | user user _ named => exact .user user version named

theorem ofGroup?_eq_ok_iff {group : Group} {row : EntityRow} :
    ofGroup? group = .ok row ↔
      isBlank group.id = false ∧ row = ofGroup (fold group.id) group := by
  unfold ofGroup?
  rw [Answer.bind_eq_ok_iff]
  constructor
  · rintro ⟨key, stored, equality⟩
    obtain ⟨named, rfl⟩ := storableKey_eq_ok_iff.mp stored
    cases equality
    exact ⟨named, rfl⟩
  · rintro ⟨named, rfl⟩
    exact ⟨fold group.id, storableKey_eq_ok_iff.mpr ⟨named, rfl⟩, rfl⟩

theorem ofUser?_eq_ok_iff {user : User} {row : EntityRow} :
    ofUser? user = .ok row ↔
        isBlank user.id = false ∧ row = ofUser (fold user.id) user := by
  unfold ofUser?
  rw [Answer.bind_eq_ok_iff]
  constructor
  · rintro ⟨key, stored, equality⟩
    obtain ⟨named, rfl⟩ := storableKey_eq_ok_iff.mp stored
    cases equality
    exact ⟨named, rfl⟩
  · rintro ⟨named, rfl⟩
    exact ⟨fold user.id, storableKey_eq_ok_iff.mpr ⟨named, rfl⟩, rfl⟩

theorem isRecord_of_ofGroup? {group : Group} {row : EntityRow}
    (stored : ofGroup? group = .ok row) :
    row.IsRecord := by
  obtain ⟨named, rfl⟩ := ofGroup?_eq_ok_iff.mp stored
  exact .group group 1 named

theorem isRecord_of_ofUser? {user : User} {row : EntityRow}
    (stored : ofUser? user = .ok row) :
    row.IsRecord := by
  obtain ⟨named, rfl⟩ := ofUser?_eq_ok_iff.mp stored
  exact .user user 1 named

end EntityRow

namespace EdgeRow

/-- Where the group of an edge stands. -/
def groupPlace (edge : EdgeRow) : SqlValue × SqlValue :=
  (.text EntityKind.group.name, edge.groupKey)

/-- Where the member of an edge stands. -/
def memberPlace (edge : EdgeRow) : SqlValue × SqlValue :=
  (edge.memberKind, edge.memberKey)

theorem ofKeys_injective {groupKey groupKey' memberKey memberKey' : String}
    {memberKind memberKind' : MemberKind}
    (equality :
      ofKeys groupKey memberKind memberKey =
        ofKeys groupKey' memberKind' memberKey') :
    groupKey = groupKey' ∧ memberKind = memberKind' ∧
        memberKey = memberKey' := by
  simp only [ofKeys, EdgeRow.mk.injEq, SqlValue.text.injEq] at equality
  exact ⟨equality.1, MemberKind.name_injective equality.2.1, equality.2.2⟩

end EdgeRow

namespace Tables

variable {tables : Tables}

/-- The places that are taken in the entity table. -/
def places (tables : Tables) : List (SqlValue × SqlValue) :=
  tables.entities.map EntityRow.place

/-- The invariant of a store that is filled with records and edges between
them. -/
structure Sound (tables : Tables) : Prop where
  isRecord : ∀ row ∈ tables.entities, row.IsRecord
  nodup_places : tables.places.Nodup
  nodup_edges : tables.edges.Nodup
  ends : ∀ edge ∈ tables.edges,
    edge.groupPlace ∈ tables.places ∧ edge.memberPlace ∈ tables.places

theorem mem_entityRows_iff {row : EntityRow} {kind key : String} :
    row ∈ tables.entityRows (.text kind) (.text key) ↔
      row ∈ tables.entities ∧ row.place = (.text kind, .text key) := by
  simp [entityRows, EntityRow.place]

theorem holds_iff {kind : EntityKind} {key : String} :
    tables.holds kind key = true ↔
        (.text kind.name, .text key) ∈ tables.places := by
  rw [holds, Bool.not_eq_true', List.isEmpty_eq_false_iff_exists_mem]
  simp only [mem_entityRows_iff, places, List.mem_map]

theorem sound_empty : Sound {} where
  isRecord := by simp
  nodup_places := List.nodup_nil
  nodup_edges := List.nodup_nil
  ends := by simp

/-- The kind and the key of a stored row are texts. -/
theorem Sound.exists_texts (sound : tables.Sound) {kind key : SqlValue}
    (taken : (kind, key) ∈ tables.places) :
    ∃ name content, kind = .text name ∧ key = .text content := by
  obtain ⟨row, stored, place⟩ := List.mem_map.mp taken
  cases place
  cases sound.isRecord row stored <;> exact ⟨_, _, rfl, rfl⟩

/-- The cells of a stored edge are texts. -/
theorem Sound.exists_edge_texts (sound : tables.Sound) {edge : EdgeRow}
    (stored : edge ∈ tables.edges) :
    ∃ groupKey memberKind memberKey,
      edge = ⟨.text groupKey, .text memberKind, .text memberKey⟩ := by
  obtain ⟨groupTaken, memberTaken⟩ := sound.ends edge stored
  obtain ⟨_, groupKey, _, groupText⟩ := sound.exists_texts groupTaken
  obtain ⟨memberKind, memberKey, kindText, memberText⟩ :=
    sound.exists_texts memberTaken
  rcases edge with ⟨_, _, _⟩
  cases groupText
  cases kindText
  cases memberText
  exact ⟨groupKey, memberKind, memberKey, rfl⟩

end Tables

end CachedDirectory
