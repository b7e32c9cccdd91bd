import CachedDirectory.Proofs.ResyncSuccess
import CachedDirectory.Proofs.RosterChanges
import CachedDirectory.Proofs.SearchAgreement

/-!
# Following a roster step by step

A replica that has copied a roster can follow it change by change: each change
of the roster is followed by the call that brings the replica up to it. However
many such steps are taken, the rows of the replica are those that a
resynchronization of an empty store would write, but for the number of times
that they were written.
-/

namespace CachedDirectory

open Relation Text

namespace EntityRow

/-- The row as if it had been written once. -/
def unversioned (row : EntityRow) : EntityRow :=
  { row with version := 1 }

end EntityRow

namespace Tables

variable {tables : Tables} {row written : EntityRow}

/-- The rows of the entities, without the numbers of times that they were
written. -/
def records (tables : Tables) : List EntityRow :=
  tables.entities.map EntityRow.unversioned

/-- An id under which something is stored is not blank. -/
theorem Sound.isBlank_eq_false (sound : tables.Sound) (kind : EntityKind)
    {id : String} (taken : (.text kind.name, .text (fold id)) ∈ tables.places) :
    isBlank id = false := by
  obtain ⟨row, member, _, key⟩ := mem_places_iff.mp taken
  obtain ⟨stored, _, storedKey, named⟩ := sound.coherent.ids row member
  have folded : fold stored = fold id :=
    SqlValue.text.inj (storedKey.symm.trans key)
  rw [← isBlank_fold, ← folded, isBlank_fold]
  exact named

/-- Whether two stores hold the same rows, in whatever order and however often
they were written. -/
structure SameData (left right : Tables) : Prop where
  records : left.records.Perm right.records
  edges : left.edges.Perm right.edges

theorem map_place_records (tables : Tables) :
    tables.records.map EntityRow.place = tables.places := by
  rw [records, List.map_map]
  rfl

theorem nodup_records (distinct : tables.places.Nodup) :
    tables.records.Nodup := by
  rw [← map_place_records] at distinct
  exact distinct.of_map _

theorem mem_records_upsertEntity :
    row ∈ (tables.upsertEntity written).records ↔
      row = written.unversioned ∨
          row ∈ tables.records ∧ row.place ≠ written.place := by
  by_cases taken : written.place ∈ tables.places
  · have rows :
      (tables.upsertEntity written).records = tables.entities.map fun other =>
        if other.place =
            written.place then written.unversioned else other.unversioned := by
      unfold upsertEntity
      rw [if_pos (any_samePlace_iff.mpr taken), records, List.map_map]
      apply List.map_congr_left
      intro other _
      by_cases same : other.samePlace written = true
      · simp [same, EntityRow.samePlace_iff.mp same, EntityRow.unversioned]
      · simp [same, mt EntityRow.samePlace_iff.mpr same]
    obtain ⟨earlier, there, samePlace⟩ := List.mem_map.mp taken
    rw [rows]
    constructor
    · intro listed
      obtain ⟨other, member, rfl⟩ := List.mem_map.mp listed
      split
      · exact Or.inl rfl
      · rename_i apart
        exact Or.inr ⟨List.mem_map_of_mem member, apart⟩
    · rintro (rfl | ⟨listed, apart⟩)
      · exact List.mem_map.mpr ⟨earlier, there, if_pos samePlace⟩
      · obtain ⟨other, member, rfl⟩ := List.mem_map.mp listed
        exact List.mem_map.mpr ⟨other, member, if_neg apart⟩
  · rw [records, entities_upsertEntity_of_not_mem taken, List.map_append,
      List.mem_append, List.map_singleton, List.mem_singleton, or_comm]
    refine or_congr_right ⟨fun listed => ⟨listed, ?_⟩, And.left⟩
    intro same
    rw [← same, ← map_place_records] at taken
    exact taken (List.mem_map_of_mem listed)

theorem mem_records_of_keep {smaller : Tables}
    (keep : SqlValue × SqlValue → Bool)
    (entities :
      smaller.entities = tables.entities.filter fun row => keep row.place) :
    row ∈ smaller.records ↔ row ∈ tables.records ∧ keep row.place = true := by
  rw [records, entities]
  constructor
  · intro listed
    obtain ⟨other, member, rfl⟩ := List.mem_map.mp listed
    obtain ⟨there, kept⟩ := List.mem_filter.mp member
    exact ⟨List.mem_map_of_mem there, kept⟩
  · rintro ⟨listed, kept⟩
    obtain ⟨other, there, rfl⟩ := List.mem_map.mp listed
    exact List.mem_map_of_mem (List.mem_filter.mpr ⟨there, kept⟩)

theorem mem_records_of_filter {smaller : Tables} {place : SqlValue × SqlValue}
    (entities :
      smaller.entities =
        tables.entities.filter fun row => !decide (row.place = place)) :
    row ∈ smaller.records ↔ row ∈ tables.records ∧ row.place ≠ place := by
  rw [mem_records_of_keep (fun other => !decide (other = place)) entities]
  simp

theorem mem_edges_dropGroup {key : String} {edge : EdgeRow} :
    edge ∈ (tables.dropGroup (.text key)).edges ↔
      edge ∈ tables.edges ∧
        edge.memberPlace ≠ (.text EntityKind.group.name, .text key) ∧
        edge.groupPlace ≠ (.text EntityKind.group.name, .text key) := by
  rw [edges_dropGroup, List.mem_filter]
  simp

theorem mem_edges_dropUser {key : String} {edge : EdgeRow} :
    edge ∈ (tables.dropUser (.text key)).edges ↔
      edge ∈ tables.edges ∧
          edge.memberPlace ≠ (.text EntityKind.user.name, .text key) := by
  rw [edges_dropUser, List.mem_filter]
  simp

theorem isYes_isEdge (dropped : Membership) (edge : EdgeRow) :
    (isEdge (EdgeRow.ofMembership dropped).groupKey
      (EdgeRow.ofMembership dropped).memberKind
      (EdgeRow.ofMembership dropped).memberKey edge).isYes =
        decide (edge = .ofMembership dropped) := by
  rw [Bool.eq_iff_iff]
  rcases edge with ⟨groupKey, memberKind, memberKey⟩
  simp [isEdge, EdgeRow.ofMembership, EdgeRow.ofKeys, and_assoc]

theorem mem_edges_dropEdge {dropped : Membership} {edge : EdgeRow} :
    edge ∈ (tables.dropEdge (.ofMembership dropped)).edges ↔
      edge ∈ tables.edges ∧ edge ≠ .ofMembership dropped := by
  rw [dropEdge, deleteEdgesWhere, List.mem_filter, isYes_isEdge]
  simp

end Tables

/-- The call that brings a replica up to a change of its roster, in which the id
may be spelled in another way. -/
inductive RosterEdit.FollowedBy : RosterEdit → SyncCall → Prop
  | putGroup (group : Group) (id : String) (named : isBlank group.id = false)
      (same : fold id = fold group.id) :
        FollowedBy (.putGroup group) (.upsertGroup id)
  | putUser (user : User) (id : String) (named : isBlank user.id = false)
      (same : fold id = fold user.id) :
        FollowedBy (.putUser user) (.upsertUser id)
  | removeGroup (removed id : String) (same : fold id = fold removed) :
      FollowedBy (.removeGroup removed) (.dropGroup id)
  | removeUser (removed id : String) (same : fold id = fold removed) :
      FollowedBy (.removeUser removed) (.dropUser id)
  | removeEdge (removed edge : Membership)
      (same : edge.identity = removed.identity) :
      FollowedBy (.removeEdge removed) (.dropMembership edge)

namespace Session

/-- A change of the roster and the call that brings the replica up to it. An
edge is added to the roster when the replica has accepted it. -/
inductive Paired : Session Roster → Session Roster → Prop
  | followed (session : Session Roster) (edit : RosterEdit) (call : SyncCall)
      (pair : edit.FollowedBy call) :
      Paired session
        (call.run ⟨session.replica, edit.apply session.authority⟩).2
  | accepted (session : Session Roster) (edge added : Membership)
      (after : Session Roster)
      (stored :
        SyncCall.run session (.upsertMembership edge) =
          (some (.ok .done), after))
      (same : added.identity = edge.identity) :
      Paired session ⟨after.replica, after.authority.addEdge added⟩

/-- Whether a replica holds the records and the edges of its roster. -/
structure Tracks (session : Session Roster) : Prop where
  roster : session.authority.Sound
  granted : session.authority.isDenied = false
  opened : session.replica.isOpen = true
  tables : session.replica.tables.Sound
  mem_records :
    ∀ row,
      row ∈ session.replica.tables.records ↔ row ∈ session.authority.entityRows
  mem_edges :
    ∀ row,
      row ∈ session.replica.tables.edges ↔ row ∈ session.authority.allEdgeRows

variable {replica : Replica} {roster : Roster} {session after : Session Roster}

/-! ## The calls -/

/-- The session after its tables have been changed. -/
def changed (session : Session Roster) (change : Tables → Tables) :
    Session Roster :=
  { session with
    replica :=
      { session.replica with
        tables := change session.replica.tables
        generation := session.replica.generation + 1 } }

theorem run_onReplica_update (opened : session.replica.isOpen = true)
    (change : Tables → Tables) :
    (onReplica (Replica.update change)).run session =
        (.ok ⟨⟩, session.changed change) :=
  run_onReplica (Replica.run_update_eq_ok_iff.mpr ⟨opened, rfl⟩)

/-- What was asked of the authority is stored if it has a row. -/
theorem run_storeFetched {β : Type} {fetch : Action (Session Roster) β}
    {rowOf : β → Answer EntityRow} {fetched : β} {row : EntityRow}
    (opened : session.replica.isOpen = true)
    (answered : fetch.run session = (.ok fetched, session))
    (storable : rowOf fetched = .ok row) :
    (do
      let entity ← fetch
      let row ← Action.ofAnswer (rowOf entity)
      onReplica (Replica.storeRow row)).run session =
        (.ok ⟨⟩, session.changed fun tables => tables.upsertEntity row) := by
  rw [Action.run_bind_ok answered, storable]
  exact run_onReplica_update opened _

theorem run_upsertGroup (session : Session Roster)
    (granted : session.authority.isDenied = false)
    (opened : session.replica.isOpen = true) {group : Group} {id : String}
    (found : session.authority.group? id = some group)
    (named : isBlank group.id = false) :
    SyncCall.run session (.upsertGroup id) =
      (some (.ok .done),
        session.changed fun tables =>
            tables.upsertEntity (.ofGroup (fold group.id) group)) := by
  have asked := Roster.run_ask (fun roster => roster.group? id) session
  rw [granted, found] at asked
  have ran : (upsertGroup id).run session = _ :=
    run_storeFetched opened (Action.run_bind_ok asked)
      (EntityRow.ofGroup?_eq_ok_iff.mpr ⟨named, rfl⟩)
  rw [SyncCall.run, SyncCall.once, ran]
  rfl

theorem run_upsertUser (session : Session Roster)
    (granted : session.authority.isDenied = false)
    (opened : session.replica.isOpen = true) {user : User} {id : String}
    (found : session.authority.user? id = some user)
    (named : isBlank user.id = false) :
    SyncCall.run session (.upsertUser id) =
      (some (.ok .done),
        session.changed fun tables =>
            tables.upsertEntity (.ofUser (fold user.id) user)) := by
  have asked := Roster.run_ask (fun roster => roster.user? id) session
  rw [granted, found] at asked
  have ran : (upsertUser id).run session = _ :=
    run_storeFetched opened (Action.run_bind_ok asked)
      (EntityRow.ofUser?_eq_ok_iff.mpr ⟨named, rfl⟩)
  rw [SyncCall.run, SyncCall.once, ran]
  rfl

theorem run_withReplica_update {reply : PUnit → SyncReply}
    {change : Tables → Tables} (opened : session.replica.isOpen = true) :
    SyncCall.withReplica reply (Replica.update change) session =
      (some (.ok (reply ⟨⟩)), session.changed change) := by
  rw [SyncCall.withReplica, SyncCall.once, run_onReplica_update opened]
  rfl

/-! ## Keeping track -/

/-- A replica that changes its tables keeps track of a roster that is edited
alike. -/
theorem Tracks.changed (tracks : session.Tracks) {edited : Roster}
    (change : Tables → Tables) (sound : edited.Sound)
    (granted : edited.isDenied = false)
    (tables : (change session.replica.tables).Sound)
    (records :
      ∀ row,
        row ∈ (change session.replica.tables).records ↔ row ∈ edited.entityRows)
    (edges :
      ∀ row,
        row ∈ (change session.replica.tables).edges ↔
          row ∈ edited.allEdgeRows) :
    Tracks (Session.changed ⟨session.replica, edited⟩ change) where
  roster := sound
  granted := granted
  opened := tracks.opened
  tables := tables
  mem_records := records
  mem_edges := edges

/-- The call that follows a change succeeds and brings the replica up to it. -/
theorem Tracks.followed (tracks : session.Tracks) {edit : RosterEdit}
    {call : SyncCall} (pair : edit.FollowedBy call) :
    ∃ after,
      call.run ⟨session.replica, edit.apply session.authority⟩ =
        (some (.ok .done), after) ∧
        after.Tracks := by
  rcases session with ⟨replica, roster⟩
  have edited : (edit.apply roster).Sound := tracks.roster.apply edit
  have sound := tracks.roster
  have opened := tracks.opened
  have granted := tracks.granted
  cases pair with
  | putGroup group id named same =>
      have ran :=
        run_upsertGroup ⟨replica, roster.putGroup group⟩ granted opened
        (sound.group?_putGroup same) named
      rw [Roster.ofGroup_completeGroup] at ran
      refine ⟨_, ran, tracks.changed _ edited granted ?_ ?_ ?_⟩
      · exact tracks.tables.upsertEntity (.group group 1 named)
      · intro row
        rw [Tables.mem_records_upsertEntity, tracks.mem_records]
        exact (sound.mem_entityRows_putGroup group).symm
      · intro row
        rw [Tables.edges_upsertEntity]
        exact tracks.mem_edges row
  | putUser user id named same =>
      have ran := run_upsertUser ⟨replica, roster.putUser user⟩ granted opened
        (sound.user?_putUser same) named
      rw [Roster.ofUser_completeUser] at ran
      refine ⟨_, ran, tracks.changed _ edited granted ?_ ?_ ?_⟩
      · exact tracks.tables.upsertEntity (.user user 1 named)
      · intro row
        rw [Tables.mem_records_upsertEntity, tracks.mem_records]
        exact (sound.mem_entityRows_putUser user).symm
      · intro row
        rw [Tables.edges_upsertEntity]
        exact tracks.mem_edges row
  | removeGroup removed id same =>
      refine ⟨_, run_withReplica_update opened,
        tracks.changed _ edited granted ?_ ?_ ?_⟩
      · exact tracks.tables.dropGroup (fold id)
      · intro row
        rw [Tables.mem_records_of_filter (Tables.entities_dropGroup _ _),
          tracks.mem_records, same]
        exact (sound.mem_entityRows_removeGroup removed).symm
      · intro row
        rw [Tables.mem_edges_dropGroup, tracks.mem_edges, same]
        exact (Roster.mem_allEdgeRows_removeGroup removed).symm
  | removeUser removed id same =>
      refine ⟨_, run_withReplica_update opened,
        tracks.changed _ edited granted ?_ ?_ ?_⟩
      · exact tracks.tables.dropUser (fold id)
      · intro row
        rw [Tables.mem_records_of_filter (Tables.entities_dropUser _ _),
          tracks.mem_records, same]
        exact (sound.mem_entityRows_removeUser removed).symm
      · intro row
        rw [Tables.mem_edges_dropUser, tracks.mem_edges, same]
        exact (Roster.mem_allEdgeRows_removeUser removed).symm
  | removeEdge removed edge same =>
      refine ⟨_, run_withReplica_update opened,
        tracks.changed _ edited granted ?_ ?_ ?_⟩
      · exact tracks.tables.dropEdge (.ofMembership edge)
      · intro row
        rw [RosterEdit.apply, Roster.entityRows_removeEdge]
        exact tracks.mem_records row
      · intro row
        rw [Tables.mem_edges_dropEdge, tracks.mem_edges,
          Roster.ofMembership_eq_iff.mpr same]
        exact (Roster.mem_allEdgeRows_removeEdge removed).symm

/-- An edge that the replica accepts has both of its ends in it. -/
theorem run_upsertMembership_eq_ok {edge : Membership} {reply : SyncReply}
    (stored :
      SyncCall.run session (.upsertMembership edge) =
        (some (.ok reply), after)) :
    session.replica.tables.holdsEnds edge = true ∧
      after = session.changed fun tables =>
          tables.upsertEdge (.ofMembership edge) := by
  have ran : SyncCall.run session (.upsertMembership edge) =
      SyncCall.withReplica (fun _ => .done) (Replica.upsertMembership edge)
          session :=
        rfl
  rw [ran, SyncCall.withReplica, SyncCall.once] at stored
  rcases Replica.run_upsertMembership edge session.replica with
    ⟨reason, result⟩ | ⟨_, kind, id, result⟩ | ⟨present, result⟩
  · rw [run_onReplica result] at stored
    cases stored
  · rw [run_onReplica result] at stored
    cases stored
  · rw [run_onReplica result] at stored
    cases stored
    exact ⟨present, rfl⟩

theorem Tracks.accepted (tracks : session.Tracks) {edge added : Membership}
    (stored :
      SyncCall.run session (.upsertMembership edge) = (some (.ok .done), after))
    (same : added.identity = edge.identity) :
    Tracks ⟨after.replica, after.authority.addEdge added⟩ := by
  obtain ⟨present, rfl⟩ := run_upsertMembership_eq_ok stored
  obtain ⟨group, member⟩ := Bool.and_eq_true_iff.mp present
  have granted : (session.authority.addEdge added).isDenied = false := by
    unfold Roster.addEdge
    split <;> exact tracks.granted
  have sound : (session.replica.tables.upsertEdge (.ofMembership edge)).Sound :=
    tracks.tables.upsertEdge
      ⟨Tables.holds_iff.mp group, Tables.holds_iff.mp member⟩
  refine tracks.changed (fun tables => tables.upsertEdge (.ofMembership edge))
    (tracks.roster.apply (.addEdge added)) granted sound ?_ ?_
  · intro row
    rw [Tables.records, Tables.entities_upsertEdge, RosterEdit.apply,
      Roster.entityRows_addEdge]
    exact tracks.mem_records row
  · intro row
    rw [Tables.mem_edges_upsertEdge, tracks.mem_edges, ←
      Roster.ofMembership_eq_iff.mpr same]
    exact (Roster.mem_allEdgeRows_addEdge added).symm

theorem Tracks.paired (tracks : session.Tracks) (step : Paired session after) :
    after.Tracks := by
  cases step with
  | followed edit call pair =>
      obtain ⟨after, ran, stillTracks⟩ := tracks.followed pair
      rw [ran]
      exact stillTracks
  | accepted edge added after stored same => exact tracks.accepted stored same

theorem Tracks.run (tracks : session.Tracks)
    (steps : ReflTransGen Paired session after) :
    after.Tracks := by
  induction steps with
  | refl => exact tracks
  | tail _ step inductionHypothesis => exact inductionHypothesis.paired step

end Session

namespace Roster

variable {roster : Roster} {tables : Tables}

theorem version_of_mem_entityRows {row : EntityRow}
    (member : row ∈ roster.entityRows) :
    row.version = 1 := by
  rcases mem_entityRows_iff.mp member with ⟨_, _, rfl⟩ | ⟨_, _, rfl⟩ <;> rfl

/-- In a copy of a roster every record was written once. -/
theorem records_eq (entities : tables.entities = roster.entityRows) :
    tables.records = roster.entityRows := by
  rw [Tables.records, entities]
  refine (List.map_congr_left fun row member => ?_).trans (List.map_id _)
  rw [EntityRow.unversioned, ← version_of_mem_entityRows member]
  rfl

/-- An edge connects records if their places are taken in the rows of the
roster. -/
theorem Sound.connects_of_places (sound : roster.Sound) {edge : Membership}
    (group :
      (EdgeRow.ofMembership edge).groupPlace ∈
        roster.entityRows.map EntityRow.place)
    (member :
      (EdgeRow.ofMembership edge).memberPlace ∈
        roster.entityRows.map EntityRow.place) :
    roster.connects edge = true := by
  have tables :=
    @Tables.holdsEnds_eq_connects { entities := roster.entityRows }
      roster sound rfl
  rw [← tables, Tables.holdsEnds, Bool.and_eq_true]
  exact ⟨Tables.holds_iff.mpr group, Tables.holds_iff.mpr member⟩

end Roster

namespace Session

variable {replica : Replica} {roster : Roster} {session after : Session Roster}

/-- A replica that was just resynchronized without skipping an edge keeps track
of its roster. -/
theorem tracks_of_resync (sound : roster.Sound)
    (pending : replica.tables.resetPending = true) {pageSize : Nat}
    {report : SyncReport}
    (synchronized :
      resync ⟨replica, roster⟩ pageSize = (some (.ok report), after))
    (complete : report.skipped = 0) : after.Tracks := by
  obtain ⟨granted, copies, tables, readable⟩ :=
    inStep_of_resync sound pending synchronized complete
  have records := Roster.records_eq copies.copied.entities
  refine ⟨copies.sound, granted, ?_, tables, ?_, ?_⟩
  · rcases Bool.eq_false_or_eq_true after.replica.isOpen with opened | closed
    · exact opened
    · rw [Replica.readTables, Replica.openTables_of_closed closed] at readable
      cases readable
  · intro row
    rw [records]
  · intro row
    rw [copies.copied.mem_edges, Roster.allEdgeRows, List.mem_map]
    constructor
    · rintro ⟨edge, member, _, rfl⟩
      exact ⟨edge, member, rfl⟩
    · rintro ⟨edge, member, rfl⟩
      exact ⟨edge, member, copies.whole edge member, rfl⟩

theorem Tracks.places_eq (tracks : session.Tracks)
    (place : SqlValue × SqlValue) :
    place ∈ session.replica.tables.places ↔
      place ∈ session.authority.entityRows.map EntityRow.place := by
  simp only [← Tables.map_place_records, List.mem_map, tracks.mem_records]

/-- No edge of a roster that is kept track of dangles. -/
theorem Tracks.connects (tracks : session.Tracks) {edge : Membership}
    (member : edge ∈ session.authority.edges) :
    session.authority.connects edge = true := by
  have stored := (tracks.mem_edges _).mpr (List.mem_map_of_mem member)
  obtain ⟨groupEnd, memberEnd⟩ := tracks.tables.ends _ stored
  exact tracks.roster.connects_of_places ((tracks.places_eq _).mp groupEnd)
    ((tracks.places_eq _).mp memberEnd)

theorem Tracks.isStorable (tracks : session.Tracks) :
    session.authority.IsStorable where
  granted := tracks.granted
  groups group listed := by
    apply tracks.tables.isBlank_eq_false .group
    apply (tracks.places_eq _).mpr
    exact List.mem_map.mpr
      ⟨_, List.mem_append_left _ (List.mem_map_of_mem listed), rfl⟩
  users user listed := by
    apply tracks.tables.isBlank_eq_false .user
    apply (tracks.places_eq _).mpr
    exact List.mem_map.mpr
      ⟨_, List.mem_append_right _ (List.mem_map_of_mem listed), rfl⟩
  edges edge member := by
    have stored := (tracks.mem_edges _).mpr (List.mem_map_of_mem member)
    obtain ⟨groupEnd, memberEnd⟩ := tracks.tables.ends _ stored
    exact ⟨tracks.tables.isBlank_eq_false .group groupEnd,
      tracks.tables.isBlank_eq_false edge.memberKind.entityKind memberEnd⟩

/-- A copy of a roster that is kept track of holds the same data. -/
theorem Tracks.sameData (tracks : session.Tracks) {tables : Tables}
    (copied : session.authority.IsCopiedTo tables) :
    session.replica.tables.SameData tables where
  records := by
    apply (List.perm_ext_iff_of_nodup ?_ ?_).mpr
    · intro row
      rw [tracks.mem_records, Roster.records_eq copied.entities]
    · exact Tables.nodup_records tracks.tables.nodup_places
    · exact Tables.nodup_records copied.distinct_entities
  edges := by
    apply (List.perm_ext_iff_of_nodup tracks.tables.nodup_edges
      copied.distinct_edges).mpr
    intro row
    rw [tracks.mem_edges, copied.mem_edges, Roster.allEdgeRows, List.mem_map]
    constructor
    · rintro ⟨edge, member, rfl⟩
      exact ⟨edge, member, tracks.connects member, rfl⟩
    · rintro ⟨edge, member, _, rfl⟩
      exact ⟨edge, member, rfl⟩

/-- Following a roster step by step comes to the same as copying it anew: after
a resynchronization that skipped no edge and any number of steps, an empty store
that is resynchronized ends up with the same entities and edges, and no edge is
skipped. -/
theorem sameData_of_paired (edits : List RosterEdit)
    (pending : replica.tables.resetPending = true) {pageSize : Nat}
    {report : SyncReport} {start : Session Roster}
    (synchronized :
      resync ⟨replica, RosterEdit.applyAll {} edits⟩ pageSize =
        (some (.ok report), start)) (complete : report.skipped = 0)
    (steps : ReflTransGen Paired start session) (fresh : Replica)
    (opened : fresh.isOpen = true) (empty : fresh.tables = {})
    (freshSize : Nat) :
    ∃ freshReport after,
      resync ⟨fresh, session.authority⟩ freshSize =
          (some (.ok freshReport), ⟨after, session.authority⟩) ∧
        freshReport.skipped = 0 ∧
            session.replica.tables.SameData after.tables := by
  have started :=
    tracks_of_resync (Roster.sound_applyAll edits) pending synchronized complete
  have tracks := started.run steps
  have freshPending : fresh.tables.resetPending = true := by
    rw [empty]
    rfl
  obtain ⟨after, ran, copied⟩ :=
    resync_eq_ok tracks.roster tracks.isStorable opened freshPending freshSize
  refine ⟨session.authority.copyReport, after, ran, ?_, tracks.sameData copied⟩
  apply List.countP_eq_zero.mpr
  intro edge member
  simp [tracks.connects member]

/-- The sample of a roster is copied. Then its group is removed, and its user is
renamed under another spelling of the id. -/
theorem sameData_of_paired_sample :
    ∃ start session freshReport after,
      resync ⟨Replica.unfilled, RosterEdit.applyAll {} Roster.sample⟩ 1 =
          (some (.ok ⟨true, 1, 1, 1, 0⟩), start) ∧
        ReflTransGen Paired start session ∧
          resync ⟨Replica.unfilled, session.authority⟩ 1 =
              (some (.ok freshReport), ⟨after, session.authority⟩) ∧
            session.replica.tables.SameData after.tables ∧
              session.replica.tables.records =
                [.ofUser "ada"
                    ⟨"ADA", some "A. Lovelace", none, none, none, true,
                        []⟩] := by
  have answered :
      (resync ⟨Replica.unfilled, RosterEdit.applyAll {} Roster.sample⟩ 1).1 =
        some (.ok ⟨true, 1, 1, 1, 0⟩) := by
    decide +kernel
  let start :=
    (resync ⟨Replica.unfilled, RosterEdit.applyAll {} Roster.sample⟩ 1).2
  have removal :
      RosterEdit.FollowedBy (.removeGroup "STAFF") (.dropGroup "staff") :=
    .removeGroup "STAFF" "staff" (by decide +kernel)
  have replacement : RosterEdit.FollowedBy
      (.putUser ⟨"ADA", some "A. Lovelace", none, none, none, true, []⟩)
          (.upsertUser "Ada") :=
    .putUser _ "Ada" (by decide +kernel) (by decide +kernel)
  have steps := (ReflTransGen.single (Paired.followed start _ _ removal)).tail
    (.followed _ _ _ replacement)
  obtain ⟨freshReport, after, ran, _, same⟩ :=
    sameData_of_paired Roster.sample (by decide)
      (Prod.ext answered rfl) rfl steps
      Replica.unfilled rfl rfl 1
  exact ⟨_, _, freshReport, after, Prod.ext answered rfl, steps, ran,
    same, by decide +kernel⟩

end Session

end CachedDirectory
