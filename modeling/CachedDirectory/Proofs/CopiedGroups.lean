import CachedDirectory.Proofs.GroupClosures
import CachedDirectory.Proofs.LiveWalks
import CachedDirectory.Proofs.RecordWrites

/-!
# Users that receive the groups of another one

A user is written and receives the groups that a stored user has at that moment,
in one change. The groups that it had before are kept, and a group that both
have is not joined twice. The two users may be the same one.
-/

namespace CachedDirectory

open Text

namespace Tables

variable {tables after : Tables} {edge : EdgeRow}

/-! ## Copied edges -/

/-- Edges that are there already are not written again, and the others are
appended. -/
theorem exists_foldl_upsertEdge (added : List EdgeRow) (tables : Tables) :
    ∃ fresh, (added.foldl upsertEdge tables).edges = tables.edges ++ fresh ∧
      ∀ edge, edge ∈ fresh ↔ edge ∈ added ∧ edge ∉ tables.edges := by
  induction added generalizing tables with
  | nil => exact ⟨[], by simp, by simp⟩
  | cons first rest inductionHypothesis =>
      obtain ⟨fresh, edges, member⟩ :=
        inductionHypothesis (tables.upsertEdge first)
      rw [List.foldl_cons, edges, edges_upsertEdge]
      rw [edges_upsertEdge] at member
      by_cases there : first ∈ tables.edges
      · rw [if_pos there] at member ⊢
        refine ⟨fresh, rfl, fun edge => ?_⟩
        have different : edge ∉ tables.edges → edge ≠ first :=
          fun absent same => absent (same ▸ there)
        rw [member, List.mem_cons]
        exact ⟨fun ⟨listed, absent⟩ => ⟨Or.inr listed, absent⟩,
          fun ⟨listed, absent⟩ =>
            ⟨listed.resolve_left (different absent), absent⟩⟩
      · rw [if_neg there] at member ⊢
        refine ⟨first :: fresh, by simp, fun edge => ?_⟩
        rw [List.mem_cons, member, List.mem_cons, List.mem_append,
          List.mem_singleton]
        by_cases same : edge = first
        · simp [same, there]
        · simp [same]

theorem places_copyEdges (tables : Tables) (kind source target : SqlValue) :
    (tables.copyEdges kind source target).places = tables.places :=
  congrArg (List.map EntityRow.place)
    (tables.entities_copyEdges kind source target)

theorem records_copyEdges (tables : Tables) (kind source target : SqlValue) :
    (tables.copyEdges kind source target).records = tables.records :=
  congrArg (List.map EntityRow.unversioned)
    (tables.entities_copyEdges kind source target)

theorem marks_copyEdges (tables : Tables) (kind source target : SqlValue) :
    (tables.copyEdges kind source target).marks = tables.marks := by
  unfold copyEdges
  generalize tables.copiedEdges kind source target = edges
  induction edges generalizing tables with
  | nil => rfl
  | cons edge rest inductionHypothesis =>
      rw [List.foldl_cons, inductionHypothesis, marks_upsertEdge]

theorem mem_copiedEdges_iff {kind source : String} {target : SqlValue} :
    edge ∈ tables.copiedEdges (.text kind) (.text source) target ↔
      edge.memberKind = .text kind ∧ edge.memberKey = target ∧
        edge.groupKey ∈ tables.directGroups (.text kind) (.text source) := by
  rw [mem_directGroups_iff, copiedEdges, List.mem_map]
  constructor
  · rintro ⟨given, listed, rfl⟩
    obtain ⟨stored, isMember⟩ := List.mem_filter.mp listed
    rw [isYes_hasMember, decide_eq_true_eq] at isMember
    exact ⟨congrArg Prod.fst isMember, rfl, given, stored, isMember, rfl⟩
  · rintro ⟨isKind, isTarget, given, stored, isMember, sameGroup⟩
    refine ⟨given, List.mem_filter.mpr ⟨stored, ?_⟩, ?_⟩
    · rw [isYes_hasMember, decide_eq_true_eq]
      exact isMember
    · have sameKind : given.memberKind = edge.memberKind :=
        (congrArg Prod.fst isMember).trans isKind.symm
      rcases edge with ⟨groupKey, memberKind, memberKey⟩
      rw [← isTarget, sameGroup, sameKind]

theorem mem_edges_copyEdges {kind source : String} {target : SqlValue} :
    edge ∈ (tables.copyEdges (.text kind) (.text source) target).edges ↔
      edge ∈ tables.edges ∨
        edge.memberKind = .text kind ∧ edge.memberKey = target ∧
        edge.groupKey ∈ tables.directGroups (.text kind) (.text source) := by
  obtain ⟨fresh, edges, member⟩ :=
    exists_foldl_upsertEdge
      (tables.copiedEdges (.text kind) (.text source) target) tables
  rw [← mem_copiedEdges_iff, copyEdges, edges, List.mem_append, member]
  by_cases there : edge ∈ tables.edges
  · simp [there]
  · simp [there]

/-- The groups of the member that receives are then its own and those of the
source. -/
theorem mem_directGroups_copyEdges {kind source target : String}
    {group : SqlValue} :
    group ∈ (tables.copyEdges (.text kind) (.text source)
      (.text target)).directGroups
        (.text kind) (.text target) ↔
      group ∈ tables.directGroups (.text kind) (.text target) ∨
        group ∈ tables.directGroups (.text kind) (.text source) := by
  rw [mem_directGroups_iff, mem_directGroups_iff]
  constructor
  · rintro ⟨edge, stored, isTarget, rfl⟩
    exact (mem_edges_copyEdges.mp stored).imp
      (fun earlier => ⟨edge, earlier, isTarget, rfl⟩)
      fun received => received.2.2
  · rintro (⟨edge, earlier, isTarget, rfl⟩ | ofSource)
    · exact ⟨edge, mem_edges_copyEdges.mpr (Or.inl earlier), isTarget, rfl⟩
    · exact ⟨⟨group, .text kind, .text target⟩,
        mem_edges_copyEdges.mpr (Or.inr ⟨rfl, rfl, ofSource⟩), rfl, rfl⟩

theorem directGroups_upsertEntity (tables : Tables) (row : EntityRow)
    (kind key : SqlValue) :
    (tables.upsertEntity row).directGroups kind key =
        tables.directGroups kind key := by
  rw [directGroups, edges_upsertEntity, directGroups]

/-- Whether a user has been written and has received the groups of another one,
and nothing else has changed. -/
structure CopiesGroups (tables : Tables) (user : User) (source : String)
    (after : Tables) :
    Prop where
  rows : tables.Gains [.user user] after
  edges : ∃ received, after.edges = tables.edges ++ received ∧
    ∀ edge ∈ received, edge.memberPlace = placeOf .user user.id
  distinct : after.edges.Nodup
  groups : ∀ group,
    group ∈ after.directGroups (.text MemberKind.user.name)
      (.text (fold user.id)) ↔
      group ∈ tables.directGroups (.text MemberKind.user.name)
        (.text (fold user.id)) ∨
        group ∈ tables.directGroups (.text MemberKind.user.name)
          (.text (fold source))
  marks : after.marks = tables.marks

theorem Sound.copiesGroups (sound : tables.Sound) {user : User}
    (named : isBlank user.id = false) (source : String) :
    tables.CopiesGroups user source
      ((tables.upsertEntity (.ofUser (fold user.id) user)).copyEdges
        (.text MemberKind.user.name)
        (.text (fold source)) (.text (fold user.id))) := by
  let written := tables.upsertEntity (.ofUser (fold user.id) user)
  have edges : written.edges = tables.edges := tables.edges_upsertEntity _
  have gains : tables.Gains [.user user] written := by
    apply gains_writing sound.nodup_places
    exact List.nodup_singleton _
  obtain ⟨received, appended, member⟩ := exists_foldl_upsertEdge
    (written.copiedEdges (.text MemberKind.user.name) (.text (fold source))
      (.text (fold user.id)))
    written
  constructor
  · exact gains.congr (written.entities_copyEdges _ _ _)
  · refine ⟨received, edges ▸ appended, fun edge listed => ?_⟩
    obtain ⟨isKind, isTarget, _⟩ :=
      mem_copiedEdges_iff.mp ((member edge).mp listed).1
    exact Prod.ext isKind isTarget
  · exact (Change.copy tables user (fold source) named).sound sound
      |>.nodup_edges
  · intro group
    rw [mem_directGroups_copyEdges, directGroups_upsertEntity,
      directGroups_upsertEntity]
  · exact (written.marks_copyEdges _ _ _).trans (tables.marks_upsertEntity _)

end Tables

namespace Session

variable {session : Session Roster} {id source : String}

/-- What is needed for a user to be copied with the groups of another one. -/
structure MayCopy (session : Session Roster) (id source : String) : Prop where
  opened : session.replica.isOpen = true
  granted : session.authority.isDenied = false
  known :
    ∃ user, session.authority.user? id = some user ∧ isBlank user.id = false
  stored : placeOf .user source ∈ session.replica.tables.places

theorem MayCopy.run (mayCopy : session.MayCopy id source) :
    ∃ user, session.authority.user? id = some user ∧ isBlank user.id = false ∧
      SyncCall.run session (.upsertUserCopyingGroups id source) =
        (some (.ok .done),
          session.changed fun tables =>
            (tables.upsertEntity (.ofUser (fold user.id) user)).copyEdges
              (.text MemberKind.user.name) (.text (fold source))
                  (.text (fold user.id))) := by
  obtain ⟨user, found, named⟩ := mayCopy.known
  have record : session.authority.record? .user id = some (.user user) := by
    rw [Roster.record?, found]
    rfl
  have answered :=
    Roster.rowFor?_eq_ok_iff.mpr ⟨mayCopy.granted, _, record, named, rfl⟩
  have stored := Tables.holds_iff.mpr mayCopy.stored
  have written :
      (Replica.write (Tables.upsertCopying (Record.user user).row source)).run
        session.replica = (.ok ⟨⟩, _) :=
    Replica.run_write_eq_ok_iff.mpr
      ⟨mayCopy.opened, _, Tables.upsertCopying_eq_ok_iff.mpr ⟨stored, rfl⟩, rfl⟩
  refine ⟨user, found, named, ?_⟩
  rw [SyncCall.run_upsertUserCopyingGroups, SyncCall.once, answered,
    Action.run_bind_ok (Action.run_ofAnswer _ session), run_onReplica written]
  rfl

theorem run_copying_of_not (refused : ¬session.MayCopy id source) :
    ∃ error, SyncCall.run session (.upsertUserCopyingGroups id source) =
      (some (.error error), session) := by
  rw [SyncCall.run_upsertUserCopyingGroups, SyncCall.once]
  cases answered : session.authority.rowFor? .user id with
  | error error => exact ⟨error, rfl⟩
  | ok row =>
      rw [Action.run_bind_ok (Action.run_ofAnswer _ session)]
      rcases Replica.run_write_cases (Tables.upsertCopying row source)
        session.replica with
        ⟨error, ran⟩ | ⟨_, _, opened, copied, _⟩
      · rw [run_onReplica ran]
        exact ⟨error, rfl⟩
      · obtain ⟨granted, _, record, named, _⟩ :=
          Roster.rowFor?_eq_ok_iff.mp answered
        obtain ⟨user, found, rfl⟩ := Option.map_eq_some_iff.mp record
        have stored :=
          Tables.holds_iff.mp (Tables.upsertCopying_eq_ok_iff.mp copied).1
        exact absurd ⟨opened, granted, ⟨user, found, named⟩, stored⟩ refused

/-- A user is copied with the groups of another one exactly if the store is
open, the roster grants access and knows the user under an id that is not blank,
and the other one is stored. Then the row of the user holds the record of the
roster, its groups are those that it had and those of the other one, also if
both are the same user, and every other row and every edge is as before. In
every other case the call fails and nothing changes. -/
theorem copying_unites_groups {replica : Replica} (reached : replica.Reached)
    (edits : List RosterEdit) (id source : String) :
    let session : Session Roster := ⟨replica, RosterEdit.applyAll {} edits⟩
    let call := SyncCall.upsertUserCopyingGroups id source
    ((call.run session).1 = some (.ok .done) ↔ session.MayCopy id source) ∧
    ((∃ user tables,
      session.authority.user? id = some user ∧ fold user.id = fold id ∧
        call.run session =
          (some (.ok .done),
            ⟨{ replica with
              tables := tables, generation := replica.generation + 1 },
              session.authority⟩) ∧
        replica.tables.CopiesGroups user source tables ∧
          tables.resetPending = replica.tables.resetPending) ∨
      ∃ error, call.run session = (some (.error error), session)) := by
  intro session call
  by_cases mayCopy : session.MayCopy id source
  · obtain ⟨user, found, named, ran⟩ := mayCopy.run
    have sound : session.authority.Sound := Roster.sound_applyAll edits
    have copies := reached.sound.copiesGroups named source
    refine ⟨⟨fun _ => mayCopy, fun _ => by rw [ran]⟩,
      Or.inl ⟨user, _, found, ?_, ran, copies, ?_⟩⟩
    · exact (sound.mem_users_of_user? found).2
    · exact Tables.resetPending_congr copies.marks
  · obtain ⟨error, ran⟩ := run_copying_of_not mayCopy
    refine ⟨⟨fun succeeded => ?_, fun may => absurd may mayCopy⟩,
      Or.inr ⟨error, ran⟩⟩
    rw [ran] at succeeded
    cases succeeded

/-- Two users, one of whom is in a group that the other one is in too, and in
another one. -/
def sharing : List RosterEdit :=
  [.putGroup ⟨"Staff", none, [], []⟩, .putGroup ⟨"Guests", none, [], []⟩,
    .putUser ⟨"Ada", none, none, none, none, true, []⟩,
    .putUser ⟨"Bob", some "Bob", none, none, none, true, []⟩]

/-- A replica that has copied them. -/
def shared : Replica :=
  Replica.afterCalls (RosterEdit.applyAll {} sharing) Replica.unfilled
    [.upsertAllGroups, .upsertAllUsers,
      .upsertMembership ⟨"Guests", .user, "Bob"⟩,
      .upsertMembership ⟨"Guests", .user, "Ada"⟩,
        .upsertMembership ⟨"Staff", .user, "Ada"⟩]

/-- The group that both are in is not joined twice. -/
theorem copying_unites_groups_of_shared :
    ∃ tables,
      SyncCall.run ⟨shared, RosterEdit.applyAll {} sharing⟩
        (.upsertUserCopyingGroups "BOB" "ada") =
          (some (.ok .done),
            ⟨{ shared with
              tables := tables, generation := shared.generation + 1 },
              RosterEdit.applyAll {} sharing⟩) ∧
        tables.edges =
          [⟨.text "guests", .text "USER", .text "bob"⟩,
            ⟨.text "guests", .text "USER", .text "ada"⟩,
            ⟨.text "staff", .text "USER", .text "ada"⟩,
            ⟨.text "staff", .text "USER", .text "bob"⟩] := by
  have reached : shared.Reached :=
    Replica.reached_unfilled.afterCalls _ _
  have mayCopy :
      MayCopy ⟨shared, RosterEdit.applyAll {} sharing⟩ "BOB" "ada" := by
    refine ⟨by decide +kernel, rfl,
      ⟨⟨"Bob", some "Bob", none, none, none, true, []⟩, ?_, ?_⟩, ?_⟩
    · decide +kernel
    · decide +kernel
    · decide +kernel
  obtain ⟨succeeds, result⟩ := copying_unites_groups reached sharing "BOB" "ada"
  have succeeded := succeeds.mpr mayCopy
  rcases result with ⟨user, tables, _, _, ran, _⟩ | ⟨error, ran⟩
  · refine ⟨tables, ran, ?_⟩
    have edges : (SyncCall.run ⟨shared, RosterEdit.applyAll {} sharing⟩
        (.upsertUserCopyingGroups "BOB" "ada")).2.replica.tables.edges =
          [⟨.text "guests", .text "USER", .text "bob"⟩,
            ⟨.text "guests", .text "USER", .text "ada"⟩,
            ⟨.text "staff", .text "USER", .text "ada"⟩,
            ⟨.text "staff", .text "USER", .text "bob"⟩] := by
      decide +kernel
    rw [ran] at edges
    exact edges
  · rw [ran] at succeeded
    cases succeeded

end Session

end CachedDirectory
