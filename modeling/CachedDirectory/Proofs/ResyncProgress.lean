import CachedDirectory.Proofs.Integrity
import CachedDirectory.Proofs.RosterCopies

/-!
# Resynchronization from a roster

A resynchronization from a roster comes to an end within its rounds. If it
succeeds, the tables are a copy of the roster that depends neither on the length
of the pages nor on what was stored before.
-/

namespace CachedDirectory

open Text

namespace Roster

variable {roster : Roster}

theorem edgeRowsOf_concat (roster : Roster) (done : List Membership)
    (edge : Membership) :
    roster.edgeRowsOf (done ++ [edge]) =
      roster.edgeRowsOf done ++
        if roster.connects edge then [EdgeRow.ofMembership edge] else [] := by
  cases connected : roster.connects edge <;> simp [edgeRowsOf, connected]

theorem ofMembership_injective {left right : Membership}
    (same : EdgeRow.ofMembership left = EdgeRow.ofMembership right) :
    left.identity = right.identity := by
  obtain ⟨group, kind, member⟩ := EdgeRow.ofKeys_injective same
  simp [Membership.identity, group, kind, member]

/-- The edges of a roster have different rows. -/
theorem Sound.nodup_map_ofMembership (sound : roster.Sound) :
    (roster.sortedEdges.map EdgeRow.ofMembership).Nodup := by
  have distinct := List.pairwise_map.mp sound.distinct_sortedEdges
  exact List.pairwise_map.mpr
    (distinct.imp fun different same => different (ofMembership_injective same))

/-- The row of an edge is not among those of the edges before it. -/
theorem Sound.ofMembership_not_mem (sound : roster.Sound)
    {done rest : List Membership} {edge : Membership}
    (listed : roster.sortedEdges = done ++ edge :: rest) :
    EdgeRow.ofMembership edge ∉ roster.edgeRowsOf done := by
  intro taken
  have distinct := sound.nodup_map_ofMembership
  rw [listed, List.map_append, List.map_cons] at distinct
  obtain ⟨earlier, kept, same⟩ := List.mem_map.mp taken
  have before :=
    List.mem_map_of_mem (f := EdgeRow.ofMembership)
      (List.mem_of_mem_filter kept)
  exact (List.nodup_append.mp distinct).2.2 _ before _ List.mem_cons_self same

theorem reportAfter_concat (roster : Roster) (done : List Membership)
    (edge : Membership) :
    roster.reportAfter (done ++ [edge]) =
      if roster.connects edge then
        { roster.reportAfter done with
          memberships := (roster.reportAfter done).memberships + 1 }
      else
        { roster.reportAfter done with
            skipped := (roster.reportAfter done).skipped + 1 } := by
  cases connected : roster.connects edge <;> simp [reportAfter, connected]

end Roster

namespace Session

variable {roster : Roster} {length : Nat}

/-- The records that a roster answers with are stored, unless it refuses to
answer. -/
theorem run_ask_storeAll {α : Type} (roster : Roster) (find : Roster → List α)
    (rowOf : α → Answer EntityRow) (length : Nat) (replica : Replica) :
    ((ask (Roster.authorized find)) >>= fun records =>
        onReplica (Replica.storeAll rowOf (records.take length))).run
          ⟨replica, roster⟩ =
      if roster.isDenied then (.error Roster.denial, ⟨replica, roster⟩)
      else
        let stored :=
          (Replica.storeAll rowOf ((find roster).take length)).run replica
        (stored.1, ⟨stored.2, roster⟩) := by
  cases denied : roster.isDenied with
  | true => exact Action.run_bind_error (by rw [Roster.run_ask, if_pos denied])
  | false =>
      rw [Action.run_bind_ok (by rw [Roster.run_ask, denied]; rfl)]
      rfl

theorem run_upsertGroupsPage (positive : 0 < length) (position : Nat)
    (replica : Replica) :
    (upsertGroupsPage length position).run ⟨replica, roster⟩ =
      if roster.isDenied then (.error Roster.denial, ⟨replica, roster⟩)
      else
        let stored := (Replica.storeAll EntityRow.ofGroup?
          ((roster.groups.drop position).take length)).run replica
        (stored.1, ⟨stored.2, roster⟩) := by
  have copied := run_ask_storeAll roster
    (fun roster => roster.groupPage position length) EntityRow.ofGroup?
      length replica
  rw [Roster.groupPage_eq, List.take_take, Nat.min_self] at copied
  rw [upsertGroupsPage, if_neg (Nat.ne_of_gt positive)]
  exact copied

theorem run_upsertUsersPage (positive : 0 < length) (position : Nat)
    (replica : Replica) :
    (upsertUsersPage length position).run ⟨replica, roster⟩ =
      if roster.isDenied then (.error Roster.denial, ⟨replica, roster⟩)
      else
        let stored := (Replica.storeAll EntityRow.ofUser?
          ((roster.users.drop position).take length)).run replica
        (stored.1, ⟨stored.2, roster⟩) := by
  have copied := run_ask_storeAll roster
    (fun roster => roster.userPage position length) EntityRow.ofUser?
      length replica
  rw [Roster.userPage_eq, List.take_take, Nat.min_self] at copied
  rw [upsertUsersPage, if_neg (Nat.ne_of_gt positive)]
  exact copied

end Session

namespace Resync

variable {roster : Roster} {pageSize left : Nat}

/-- What the tables hold at each stage of a resynchronization from a roster, and
how many steps are left at most. -/
inductive Progress (roster : Roster) (pageSize : Nat) :
    Nat → Resync → Tables → Prop
  | check {tables : Tables} (pending : tables.resetPending = true) :
      Progress roster pageSize
        (roster.groups.length + roster.users.length +
          2 * roster.sortedEdges.length + 6)
        ⟨pageSize, {}, .check⟩ tables
  | empty {tables : Tables} :
      Progress roster pageSize
        (roster.groups.length + roster.users.length +
          2 * roster.sortedEdges.length + 5)
        ⟨pageSize, { performed := true }, .empty⟩ tables
  | groups {tables : Tables} {done rest : List Group}
      (listed : roster.groups = done ++ rest)
      (entities : tables.entities = EntityRow.ofGroups done)
        (edges : tables.edges = []) :
      Progress roster pageSize
        (rest.length + roster.users.length + 2 * roster.sortedEdges.length + 4)
        ⟨pageSize, { performed := true, groups := done.length }, .groups⟩ tables
  | users {tables : Tables} {done rest : List User}
      (granted : roster.isDenied = false)
      (listed : roster.users = done ++ rest)
      (entities :
        tables.entities =
          EntityRow.ofGroups roster.groups ++ EntityRow.ofUsers done)
      (edges : tables.edges = []) :
      Progress roster pageSize (rest.length + 2 * roster.sortedEdges.length + 3)
        ⟨pageSize,
          { performed := true, groups := roster.groups.length,
            users := done.length },
          .users⟩
        tables
  | edges {tables : Tables} {done rest : List Membership}
      (granted : roster.isDenied = false)
      (listed : roster.sortedEdges = done ++ rest)
      (entities : tables.entities = roster.entityRows)
      (edges : tables.edges = roster.edgeRowsOf done) :
      Progress roster pageSize (2 * rest.length + 2)
        ⟨pageSize, roster.reportAfter done, .edges done.length⟩ tables
  /-- The page at hand begins with an edge; the edges after it are asked for
  from the position where it ends, unless it is the last one. -/
  | storing {tables : Tables} {done page rest : List Membership}
      {edge : Membership}
      {following : Option Nat} (granted : roster.isDenied = false)
      (listed : roster.sortedEdges = done ++ edge :: page ++ rest)
      (followed :
        following = some (done ++ edge :: page).length ∨
          following = none ∧ rest = [])
      (entities : tables.entities = roster.entityRows)
      (edges : tables.edges = roster.edgeRowsOf done) :
      Progress roster pageSize (2 * (page ++ rest).length + 3)
        ⟨pageSize, roster.reportAfter done, .storing edge page following⟩ tables
  | complete {tables : Tables} (granted : roster.isDenied = false)
      (entities : tables.entities = roster.entityRows)
        (edges : tables.edges = roster.edgeRows) :
      Progress roster pageSize 1
        ⟨pageSize, roster.reportAfter roster.sortedEdges, .complete⟩ tables
  | synchronized {tables : Tables} (granted : roster.isDenied = false)
      (entities : tables.entities = roster.entityRows)
        (edges : tables.edges = roster.edgeRows)
      (marked : tables.resetPending = false) :
      Progress roster pageSize 0
        ⟨pageSize, roster.reportAfter roster.sortedEdges, .over (.ok ⟨⟩)⟩ tables
  | failed {tables : Tables} {report : SyncReport} (error : DirectoryError) :
      Progress roster pageSize 0 ⟨pageSize, report, .over (.error error)⟩ tables

/-- Whether a step leads to a stage with fewer steps left. The roster stays as
it is. -/
def Advances (roster : Roster) (pageSize left : Nat)
    (result : Resync × Session Roster) : Prop :=
  result.2.authority = roster ∧
    ∃ fewer < left,
      Progress roster pageSize fewer result.1 result.2.replica.tables

theorem advances_failed {report : SyncReport} {stage : ResyncStage}
    {replica : Replica} (error : DirectoryError) (positive : 0 < left) :
    Advances roster pageSize left
      (failed ⟨pageSize, report, stage⟩ error, ⟨replica, roster⟩) :=
  ⟨rfl, 0, positive, .failed error⟩

/-- A failure is an advance, so only the values of an action count. -/
theorem advances_after {β : Type} {action : Action (Session Roster) β}
    {report : SyncReport} {stage : ResyncStage} {next : β → Resync}
    {replica after : Replica} {answer : Answer β} (positive : 0 < left)
    (result : action.run ⟨replica, roster⟩ = (answer, ⟨after, roster⟩))
    (advances :
      ∀ value,
        answer = .ok value → ∃ fewer < left,
          Progress roster pageSize fewer (next value) after.tables) :
    Advances roster pageSize left
      (Resync.after ⟨pageSize, report, stage⟩ action next
          ⟨replica, roster⟩) := by
  rw [Resync.after, result]
  cases answer with
  | ok value => exact ⟨rfl, advances value rfl⟩
  | error error => exact advances_failed error positive

/-- An action on the replica leaves the roster as it is. -/
theorem advances_after_onReplica {β : Type} {action : Action Replica β}
    {report : SyncReport} {stage : ResyncStage} {next : β → Resync}
    {replica : Replica} (positive : 0 < left)
    (advances :
      ∀ value after,
        action.run replica = (.ok value, after) → ∃ fewer < left,
          Progress roster pageSize fewer (next value) after.tables) :
    Advances roster pageSize left
      (Resync.after ⟨pageSize, report, stage⟩ (Session.onReplica action) next
        ⟨replica, roster⟩) := by
  rcases result : action.run replica with ⟨answer, after⟩
  apply advances_after positive (Session.run_onReplica result)
  rintro value rfl
  exact advances value after result

/-! ## The stages -/

/-- The page after the records that were copied, and what is left after the
page. -/
theorem page_of_listed {α : Type} {records done rest : List α}
    (listed : records = done ++ rest) (length : Nat) :
    (records.drop done.length).take length = rest.take length ∧
      records = done ++ rest.take length ++ rest.drop length := by
  constructor
  · rw [listed, List.drop_left]
  · rw [List.append_assoc, List.take_append_drop, listed]

theorem advances_check {tables : Tables} {replica : Replica}
    (same : replica.tables = tables) (pending : tables.resetPending = true) :
    Advances roster pageSize
      (roster.groups.length + roster.users.length +
        2 * roster.sortedEdges.length + 6)
      (step ⟨pageSize, {}, .check⟩ ⟨replica, roster⟩) := by
  apply advances_after_onReplica (by omega)
  intro needed after result
  simp only [Replica.requireReset, Action.observe, Prod.mk.injEq] at result
  obtain ⟨found, rfl⟩ := result
  obtain ⟨opened, available, answered⟩ := Answer.bind_eq_ok_iff.mp found
  rcases Bool.eq_false_or_eq_true replica.isOpen with isOpen | closed
  · rw [Replica.openTables_of_open isOpen] at available
    cases available
    cases answered
    rw [same, pending]
    exact ⟨_, Nat.lt_succ_self _, .empty⟩
  · rw [Replica.openTables_of_closed closed] at available
    cases available

theorem advances_empty (replica : Replica) :
    Advances roster pageSize
      (roster.groups.length + roster.users.length +
        2 * roster.sortedEdges.length + 5)
      (step ⟨pageSize, { performed := true }, .empty⟩ ⟨replica, roster⟩) := by
  apply advances_after_onReplica (by omega)
  intro _ after result
  obtain ⟨_, rfl⟩ := Replica.run_reset_eq_ok result
  refine ⟨_, Nat.lt_succ_self _, Progress.groups (List.nil_append _).symm ?_ ?_⟩
  · exact Tables.entities_setState _ _
  · exact Tables.edges_setState _ _

theorem advances_groups {done rest : List Group} {replica : Replica}
    (sound : roster.Sound) (positive : 0 < pageSize)
    (listed : roster.groups = done ++ rest)
    (entities : replica.tables.entities = EntityRow.ofGroups done)
    (edges : replica.tables.edges = []) :
    Advances roster pageSize
      (rest.length + roster.users.length + 2 * roster.sortedEdges.length + 4)
      (step ⟨pageSize, { performed := true, groups := done.length }, .groups⟩
        ⟨replica, roster⟩) := by
  obtain ⟨page, listedPage⟩ := page_of_listed listed pageSize
  rcases result :
    (Replica.storeAll EntityRow.ofGroup? (rest.take pageSize)).run replica
    with ⟨answer, after⟩
  have ran :
      (Session.upsertGroupsPage pageSize done.length).run
          ⟨replica, roster⟩ = _ :=
    Session.run_upsertGroupsPage positive done.length replica
  rw [page, result] at ran
  cases denied : roster.isDenied with
  | true =>
      rw [if_pos denied] at ran
      exact advances_after (by omega) ran fun _ given => nomatch given
  | false =>
      rw [denied] at ran
      dsimp only [step]
      apply advances_after (by omega) ran
      rintro copied rfl
      have distinct : ((replica.tables.entities ++
          EntityRow.ofGroups (rest.take pageSize)).map
              EntityRow.place).Nodup := by
        rw [entities]
        refine List.Nodup.sublist (List.Sublist.map _ ?_) sound.nodup_places
        rw [Roster.entityRows, listedPage, EntityRow.ofGroups_append,
          EntityRow.ofGroups_append]
        exact (List.sublist_append_left _ _).trans
          (List.sublist_append_left _ _)
      obtain ⟨rfl, tables⟩ := Replica.storeGroups_eq_ok distinct result
      have copies : after.tables.entities =
          EntityRow.ofGroups (done ++ rest.take pageSize) := by
        rw [tables, EntityRow.ofGroups_append, ← entities]
      have noEdges : after.tables.edges = [] := by rw [tables, ← edges]
      rw [← List.length_append, List.length_take]
      split
      · have nothing : rest.drop pageSize = [] :=
          List.drop_eq_nil_of_le (by omega)
        rw [nothing, List.append_nil] at listedPage
        rw [← listedPage] at copies ⊢
        refine ⟨_, ?_,
          Progress.users denied (List.nil_append _).symm ?_ noEdges⟩
        · omega
        · rw [copies]
          exact (List.append_nil _).symm
      · refine ⟨_, ?_, Progress.groups listedPage copies noEdges⟩
        rw [List.length_drop]
        omega

theorem advances_users {done rest : List User} {replica : Replica}
    (sound : roster.Sound) (positive : 0 < pageSize)
    (granted : roster.isDenied = false) (listed : roster.users = done ++ rest)
    (entities :
      replica.tables.entities =
        EntityRow.ofGroups roster.groups ++ EntityRow.ofUsers done)
    (edges : replica.tables.edges = []) :
    Advances roster pageSize (rest.length + 2 * roster.sortedEdges.length + 3)
      (step
        ⟨pageSize,
          { performed := true, groups := roster.groups.length,
            users := done.length },
          .users⟩
        ⟨replica, roster⟩) := by
  obtain ⟨page, listedPage⟩ := page_of_listed listed pageSize
  rcases result :
    (Replica.storeAll EntityRow.ofUser? (rest.take pageSize)).run replica
    with ⟨answer, after⟩
  have ran :
      (Session.upsertUsersPage pageSize done.length).run
          ⟨replica, roster⟩ = _ :=
    Session.run_upsertUsersPage positive done.length replica
  rw [page, result, granted] at ran
  dsimp only [step]
  apply advances_after (by omega) ran
  rintro copied rfl
  have distinct : ((replica.tables.entities ++
      EntityRow.ofUsers (rest.take pageSize)).map EntityRow.place).Nodup := by
    rw [entities]
    refine List.Nodup.sublist (List.Sublist.map _ ?_) sound.nodup_places
    rw [Roster.entityRows, listedPage, EntityRow.ofUsers_append,
      EntityRow.ofUsers_append, List.append_assoc]
    exact (List.Sublist.refl _).append (List.sublist_append_left _ _)
  obtain ⟨rfl, tables⟩ := Replica.storeUsers_eq_ok distinct result
  have copies : after.tables.entities =
      EntityRow.ofGroups roster.groups ++
          EntityRow.ofUsers (done ++ rest.take pageSize) := by
    rw [tables, EntityRow.ofUsers_append, ← List.append_assoc, ← entities]
  have noEdges : after.tables.edges = [] := by rw [tables, ← edges]
  rw [← List.length_append, List.length_take]
  split
  · have nothing : rest.drop pageSize = [] := List.drop_eq_nil_of_le (by omega)
    rw [nothing, List.append_nil] at listedPage
    rw [← listedPage] at copies ⊢
    refine ⟨_, ?_,
      Progress.edges granted (List.nil_append _).symm copies noEdges⟩
    omega
  · refine ⟨_, ?_, Progress.users granted listedPage copies noEdges⟩
    rw [List.length_drop]
    omega

theorem advances_edges {done rest : List Membership} {replica : Replica}
    (positive : 0 < pageSize) (granted : roster.isDenied = false)
    (listed : roster.sortedEdges = done ++ rest)
    (entities : replica.tables.entities = roster.entityRows)
    (edges : replica.tables.edges = roster.edgeRowsOf done) :
    Advances roster pageSize (2 * rest.length + 2)
      (step ⟨pageSize, roster.reportAfter done, .edges done.length⟩
          ⟨replica, roster⟩) := by
  have question : Authority.memberships done.length pageSize =
      Roster.authorized fun roster =>
        roster.edgePage done.length pageSize := rfl
  have page : roster.edgePage done.length pageSize = rest.take pageSize := by
    rw [Roster.edgePage, listed, List.drop_left]
  have ran :=
    Roster.run_ask (fun roster => roster.edgePage done.length pageSize)
    ⟨replica, roster⟩
  dsimp only [step]
  rw [question]
  rw [page, granted] at ran
  apply advances_after (by omega) ran
  intro asked given
  cases given
  cases rest with
  | nil =>
      rw [List.append_nil] at listed
      rw [← listed] at edges
      rw [List.take_nil, List.length_nil, if_pos positive, ← listed]
      exact ⟨_, Nat.lt_succ_self _, Progress.complete granted entities edges⟩
  | cons edge others =>
      obtain ⟨length, rfl⟩ := Nat.exists_eq_add_of_lt positive
      rw [Nat.zero_add, List.take_succ_cons, List.length_cons, List.length_cons,
        List.length_take]
      have listedPage : roster.sortedEdges =
          done ++ edge :: others.take length ++ others.drop length := by
        rw [List.append_assoc, List.cons_append, List.take_append_drop, listed]
      refine ⟨_, ?_, Progress.storing granted listedPage ?_ entities edges⟩
      · rw [List.take_append_drop]
        omega
      · split
        · exact Or.inr ⟨rfl, List.drop_eq_nil_of_le (by omega)⟩
        · refine Or.inl (congrArg some ?_)
          rw [List.length_append, List.length_cons, List.length_take]

/-- After an edge, the next one of the page is stored, or the next page is asked
for. -/
theorem progress_stageOfPage {done page rest : List Membership}
    {following : Option Nat} {tables : Tables}
    (granted : roster.isDenied = false)
    (listed : roster.sortedEdges = done ++ page ++ rest)
    (followed :
      following = some (done ++ page).length ∨ following = none ∧ rest = [])
    (entities : tables.entities = roster.entityRows)
    (edges : tables.edges = roster.edgeRowsOf done) :
    ∃ fewer < 2 * (page ++ rest).length + 3,
      Progress roster pageSize fewer
        ⟨pageSize, roster.reportAfter done, stageOfPage page following⟩
            tables := by
  cases page with
  | nil =>
      rw [List.append_nil] at listed followed
      rcases followed with rfl | ⟨rfl, rfl⟩
      · exact ⟨_, Nat.lt_succ_self _, .edges granted listed entities edges⟩
      · rw [List.append_nil] at listed
        refine ⟨1, by omega, ?_⟩
        rw [← listed] at edges ⊢
        exact .complete granted entities edges
  | cons edge others =>
      refine ⟨_, ?_, .storing granted listed followed entities edges⟩
      rw [List.cons_append, List.length_cons]
      omega

theorem advances_storing {done page rest : List Membership} {edge : Membership}
    {following : Option Nat} {replica : Replica} (sound : roster.Sound)
    (granted : roster.isDenied = false)
    (listed : roster.sortedEdges = done ++ edge :: page ++ rest)
    (followed :
      following = some (done ++ edge :: page).length ∨
        following = none ∧ rest = [])
    (entities : replica.tables.entities = roster.entityRows)
    (edges : replica.tables.edges = roster.edgeRowsOf done) :
    Advances roster pageSize (2 * (page ++ rest).length + 3)
      (step ⟨pageSize, roster.reportAfter done, .storing edge page following⟩
        ⟨replica, roster⟩) := by
  have fresh : EdgeRow.ofMembership edge ∉ roster.edgeRowsOf done := by
    rw [List.append_assoc, List.cons_append] at listed
    exact sound.ofMembership_not_mem listed
  have shifted : done ++ edge :: page = done ++ [edge] ++ page := by simp
  rw [shifted] at listed followed
  have report := roster.reportAfter_concat done edge
  have rows := roster.edgeRowsOf_concat done edge
  dsimp only [step]
  rw [store]
  rcases Replica.run_upsertMembership edge replica with
    ⟨reason, result⟩ | ⟨missing, kind, id, result⟩ | ⟨present, result⟩
  · rw [Session.run_onReplica result]
    exact advances_failed _ (by omega)
  · rw [Session.run_onReplica result]
    rw [Tables.holdsEnds_eq_connects sound entities] at missing
    rw [missing] at report rows
    have unchanged :
        replica.tables.edges = roster.edgeRowsOf (done ++ [edge]) :=
      edges.trans (rows.trans (List.append_nil _)).symm
    have next : ∃ fewer < _, Progress roster pageSize fewer _ _ :=
      progress_stageOfPage granted listed followed entities unchanged
    rw [report] at next
    exact ⟨rfl, next⟩
  · rw [Session.run_onReplica result]
    rw [Tables.holdsEnds_eq_connects sound entities] at present
    rw [present] at report rows
    have added : (replica.tables.upsertEdge (.ofMembership edge)).edges =
        roster.edgeRowsOf (done ++ [edge]) := by
      rw [Tables.edges_upsertEdge, edges, if_neg fresh, rows]
      rfl
    have kept :
        (replica.tables.upsertEdge (.ofMembership edge)).entities =
            roster.entityRows :=
      (Tables.entities_upsertEdge _ _).trans entities
    have next : ∃ fewer < _, Progress roster pageSize fewer _ _ :=
      progress_stageOfPage granted listed followed kept added
    rw [report] at next
    exact ⟨rfl, next⟩

/-! ## The whole resynchronization -/

/-- A resynchronization that has no answer yet gets closer to its end. -/
theorem Progress.advances {resync : Resync} {replica : Replica}
    (sound : roster.Sound) (positive : 0 < pageSize)
    (progress : Progress roster pageSize left resync replica.tables)
    (unanswered : resync.answer? = none) :
    Advances roster pageSize left (resync.step ⟨replica, roster⟩) := by
  rcases state : replica.tables with ⟨entityRows, edgeRows, marks⟩
  cases progress with
  | check pending => exact advances_check rfl pending
  | empty => exact advances_empty replica
  | groups listed entities edges =>
      exact advances_groups sound positive listed entities edges
  | users granted listed entities edges =>
      exact advances_users sound positive granted listed entities edges
  | edges granted listed entities edges =>
      exact advances_edges positive granted listed entities edges
  | storing granted listed followed entities edges =>
      exact advances_storing sound granted listed followed entities edges
  | complete granted entities edges =>
      apply advances_after_onReplica (Nat.lt_succ_self 0)
      intro _ after result
      obtain ⟨_, rfl⟩ := Replica.run_update_eq_ok_iff.mp result
      refine ⟨0, Nat.lt_succ_self 0, .synchronized granted ?_ ?_ ?_⟩
      · exact (Tables.entities_setState _ _).trans entities
      · exact (Tables.edges_setState _ _).trans edges
      · exact (Tables.resetPending_setState _ _).trans (bne_self_eq_false _)
  | synchronized granted entities edges marked => cases unanswered
  | failed error => cases unanswered

/-- When no steps are left, there is an answer, and the tables are a copy if it
is a value. -/
theorem Progress.answer {resync : Resync} {tables : Tables}
    {answer : Answer SyncReport}
    (progress : Progress roster pageSize left resync tables)
    (answered : resync.answer? = some answer) {report : SyncReport}
    (success : answer = .ok report) :
    report = roster.reportAfter roster.sortedEdges ∧
      tables.entities = roster.entityRows ∧
      tables.edges = roster.edgeRows ∧ tables.resetPending = false ∧
        roster.isDenied = false := by
  subst success
  cases progress with
  | synchronized granted entities edges marked =>
      cases answered
      exact ⟨rfl, entities, edges, marked, granted⟩
  | _ => cases answered

/-- A resynchronization has an answer when it has taken the steps that were
left. -/
theorem Progress.run {resync : Resync} {replica : Replica} {steps : Nat}
    (sound : roster.Sound) (positive : 0 < pageSize)
    (progress : Progress roster pageSize left resync replica.tables)
    (enough : left ≤ steps) :
    ∃ answer after last finished,
      Resync.run steps resync ⟨replica, roster⟩ =
        (some answer, ⟨after, roster⟩) ∧
        Progress roster pageSize last finished after.tables ∧
            finished.answer? = some answer := by
  induction steps generalizing left resync replica with
  | zero =>
      obtain rfl := Nat.le_zero.mp enough
      obtain ⟨answer, answered⟩ : ∃ answer, resync.answer? = some answer := by
        cases progress <;> exact ⟨_, rfl⟩
      exact ⟨answer, replica, 0, resync, by rw [Resync.run, answered],
        progress, answered⟩
  | succ steps inductionHypothesis =>
      unfold Resync.run
      cases answered : resync.answer? with
      | some answer =>
          exact ⟨answer, replica, left, resync, rfl, progress, answered⟩
      | none =>
          obtain ⟨unchanged, fewer, less, next⟩ :=
            progress.advances sound positive answered
          rcases result : resync.step ⟨replica, roster⟩ with
              ⟨following, after, authority⟩
          rw [result] at unchanged next
          obtain rfl : authority = roster := unchanged
          exact inductionHypothesis next (by omega)

end Resync

/-- Whether tables hold a roster: a row for each of its records, with the values
of the record, and a row for each of its edges that has both ends. -/
structure Roster.IsCopiedTo (roster : Roster) (tables : Tables) : Prop where
  entities : tables.entities =
    (roster.groups.map fun group => EntityRow.ofGroup (fold group.id) group) ++
      roster.users.map fun user => EntityRow.ofUser (fold user.id) user
  distinct_entities : (tables.entities.map EntityRow.place).Nodup
  edges :
    tables.edges =
      (roster.sortedEdges.filter roster.connects).map EdgeRow.ofMembership
  distinct_edges : tables.edges.Nodup
  mem_edges : ∀ row, row ∈ tables.edges ↔
    ∃ edge ∈ roster.edges,
      roster.connects edge = true ∧ row = .ofMembership edge

/-- What copying a roster is reported as. -/
def Roster.copyReport (roster : Roster) : SyncReport where
  performed := true
  groups := roster.groups.length
  users := roster.users.length
  memberships := roster.edges.countP roster.connects
  skipped := roster.edges.countP fun edge => !roster.connects edge

namespace Roster

variable {roster : Roster}

theorem reportAfter_sortedEdges (roster : Roster) :
    roster.reportAfter roster.sortedEdges = roster.copyReport := by
  rw [reportAfter, copyReport, ←
    List.countP_eq_length_filter, ←
      List.countP_eq_length_filter, roster.perm_sortedEdges.countP_eq,
        roster.perm_sortedEdges.countP_eq]

theorem Sound.isCopiedTo {tables : Tables} (sound : roster.Sound)
    (entities : tables.entities = roster.entityRows)
    (edges : tables.edges = roster.edgeRows) :
    roster.IsCopiedTo tables where
  entities := entities
  distinct_entities := entities ▸ sound.nodup_places
  edges := edges
  distinct_edges := by
    rw [edges]
    exact sound.nodup_map_ofMembership.sublist (List.filter_sublist.map _)
  mem_edges := by
    intro row
    rw [edges, edgeRows, edgeRowsOf, List.mem_map]
    constructor
    · rintro ⟨edge, kept, rfl⟩
      obtain ⟨member, connected⟩ := List.mem_filter.mp kept
      exact ⟨edge, roster.perm_sortedEdges.mem_iff.mp member, connected, rfl⟩
    · rintro ⟨edge, member, connected, rfl⟩
      have listed := roster.perm_sortedEdges.mem_iff.mpr member
      exact ⟨edge, List.mem_filter.mpr ⟨listed, connected⟩, rfl⟩

end Roster

namespace Session

/-- A resynchronization from a sound roster has an answer; if that is a value,
then the tables hold exactly the rows of the roster. -/
theorem exists_resync {roster : Roster} (sound : roster.Sound)
    {replica : Replica} (pageSize : Nat)
    (pending : replica.tables.resetPending = true) :
    ∃ answer after,
      resync ⟨replica, roster⟩ pageSize = (some answer, ⟨after, roster⟩) ∧
      ∀ report, answer = .ok report →
        report = roster.reportAfter roster.sortedEdges ∧
          after.tables.entities = roster.entityRows ∧
            after.tables.edges = roster.edgeRows ∧
            after.tables.resetPending = false ∧ roster.isDenied = false := by
  have enough :
      roster.groups.length + roster.users.length +
        2 * roster.sortedEdges.length + 6 ≤
        rounds ⟨replica, roster⟩ := by
    show _ ≤ 2 * roster.size + 8
    rw [roster.perm_sortedEdges.length_eq, Roster.size, Roster.groups,
      Roster.users, List.length_map, List.length_map, Register.toList,
      Register.toList, List.length_map, List.length_map, Register.size,
      Register.size]
    omega
  obtain ⟨answer, after, last, finished, ran, progress, answered⟩ :=
    (Resync.Progress.check pending).run sound
      (Nat.le_max_right pageSize 1) enough
  exact ⟨answer, after, ran,
    fun report success => progress.answer answered success⟩

/-- A resynchronization from a roster that came about by edits ends within its
rounds. If it succeeds, the tables are a copy of the roster, whatever they held
before and however long its pages are, and the report counts what was copied. -/
theorem resync_copies_roster (edits : List RosterEdit) (replica : Replica)
    (pageSize : Nat) (pending : replica.tables.resetPending = true) :
    ∃ answer after,
      resync ⟨replica, RosterEdit.applyAll {} edits⟩ pageSize =
        (some answer, ⟨after, RosterEdit.applyAll {} edits⟩) ∧
          ∀ report, answer = .ok report →
            (RosterEdit.applyAll {} edits).IsCopiedTo after.tables ∧
              report = (RosterEdit.applyAll {} edits).copyReport ∧
                after.tables.resetPending = false := by
  have sound := Roster.sound_applyAll edits
  obtain ⟨answer, after, ran, copies⟩ := exists_resync sound pageSize pending
  refine ⟨answer, after, ran, ?_⟩
  intro report success
  obtain ⟨reported, entities, edges, marked, _⟩ := copies report success
  exact ⟨sound.isCopiedTo entities edges,
    reported.trans (Roster.reportAfter_sortedEdges _), marked⟩

/-- A replica whose store holds the row of a user from an earlier time. -/
def staleReplica : Replica :=
  { Replica.unfilled with
    tables :=
      { entities :=
        [.ofUser "eve" ⟨"Eve", none, none, none, none, true, []⟩] } }

theorem resync_copies_sample :
    ∃ after,
      resync ⟨staleReplica, RosterEdit.applyAll {} Roster.sample⟩ 1 =
          (some (.ok ⟨true, 1, 1, 1, 0⟩),
            ⟨after, RosterEdit.applyAll {} Roster.sample⟩) ∧
        (RosterEdit.applyAll {} Roster.sample).IsCopiedTo after.tables := by
  obtain ⟨answer, after, ran, copies⟩ :=
    resync_copies_roster Roster.sample staleReplica 1 (by decide)
  have answered :
      (resync ⟨staleReplica, RosterEdit.applyAll {} Roster.sample⟩ 1).1 =
        some (.ok ⟨true, 1, 1, 1, 0⟩) := by
    decide +kernel
  rw [ran] at answered
  cases answered
  exact ⟨after, ran, (copies _ rfl).1⟩

end Session

end CachedDirectory
