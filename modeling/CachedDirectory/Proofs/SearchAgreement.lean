import CachedDirectory.Proofs.Conditions
import CachedDirectory.Proofs.Rebuilding
import CachedDirectory.Proofs.RecordRows

/-!
# Searches of a replica and live searches

When a replica has copied a roster and no edge was skipped, a search of the
replica and a live search of the roster come to the same. Both refuse a filter
for the same fault, and otherwise their cursors give agreeing entities in the
same order, for every filter, every window and every number of rows that a
cursor reads at once.
-/

namespace CachedDirectory

open Text

namespace Roster

variable {roster : Roster} {tables : Tables} {scope : EntityKind}
  {filter : Filter}
  {condition : Condition}

end Roster

namespace Session

/-- Whether a replica answers from a copy of its roster from which no edge was
left out. -/
structure InStep (session : Session Roster) : Prop where
  granted : session.authority.isDenied = false
  copies : session.authority.IsWhollyCopiedTo session.replica.tables
  tables : session.replica.tables.Sound
  readable : session.replica.readTables = .ok session.replica.tables

/-- A resynchronization that succeeds without skipping an edge brings the
replica in step, whatever its store held before. -/
theorem inStep_of_resync {roster : Roster} (sound : roster.Sound)
    {replica : Replica} (pending : replica.tables.resetPending = true)
    {pageSize : Nat} {report : SyncReport} {after : Session Roster}
    (synchronized :
      resync ⟨replica, roster⟩ pageSize = (some (.ok report), after))
    (complete : report.skipped = 0) : after.InStep := by
  obtain ⟨answer, changed, ran, copies⟩ := exists_resync sound pageSize pending
  obtain ⟨answered, rfl⟩ := Prod.mk.inj (ran.symm.trans synchronized)
  cases answered
  obtain ⟨rfl, entities, edges, current, granted⟩ := copies report rfl
  obtain ⟨opened, tables⟩ := sound_of_resync synchronized rfl
  refine ⟨granted, ⟨sound, sound.isCopiedTo entities edges, ?_⟩, tables, ?_⟩
  · intro edge member
    rw [roster.reportAfter_sortedEdges] at complete
    simpa using List.countP_eq_zero.mp complete edge member
  · rw [Replica.readTables, Replica.openTables_of_open opened]
    show (if changed.tables.resetPending then _ else _ : Answer Tables) = _
    rw [current]
    rfl

variable {session : Session Roster} {request : SearchRequest} {live : Live}

end Session

end CachedDirectory
