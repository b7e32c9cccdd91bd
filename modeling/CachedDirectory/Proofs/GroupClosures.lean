import CachedDirectory.Proofs.Ancestry
import CachedDirectory.Proofs.ResetGates
import CachedDirectory.Proofs.RosterChanges

/-!
# Closures of memberships

The stored edges form a graph between members and groups, of any shape. A
replica answers with the groups that can be reached in it from a member by one
edge or more, each once and in the order of the folded ids, and it needs no more
rounds for that than there are edges. A group is among its own groups exactly if
it lies on a cycle.
-/

namespace CachedDirectory

open Relation Text

/-! ## Paths along edges -/

namespace Tables

variable {tables : Tables}

/-- Whether an edge leads from the place of a member to the place of a group. -/
def Leads (tables : Tables) (below above : SqlValue × SqlValue) : Prop :=
  ∃ edge ∈ tables.edges, edge.memberPlace = below ∧ edge.groupPlace = above

/-- What edges lead to are groups. -/
theorem Leads.isGroup {below above : SqlValue × SqlValue}
    (leads : tables.Leads below above) :
    above.1 = .text EntityKind.group.name := by
  obtain ⟨_, _, _, rfl⟩ := leads
  rfl

/-- The keys to which edges lead from a member are the ends of its paths. -/
theorem ancestor_iff_transGen {memberKind memberKey above : SqlValue} :
    tables.Ancestor memberKind memberKey above ↔
      TransGen tables.Leads (memberKind, memberKey)
          (.text EntityKind.group.name, above) := by
  constructor
  · intro ancestor
    induction ancestor with
    | direct stored member => exact .single ⟨_, stored, member, rfl⟩
    | through stored kind below inductionHypothesis =>
        exact .tail inductionHypothesis ⟨_, stored, Prod.ext kind rfl, rfl⟩
  · intro path
    apply reached_of_path path Leads.isGroup
    · rintro _ ⟨edge, stored, member, entered⟩
      cases entered
      exact .direct stored member
    · rintro _ _ below ⟨edge, stored, member, entered⟩
      cases entered
      obtain ⟨kind, rfl⟩ := Prod.mk.inj member
      exact .through stored kind below

/-- As many rounds as there are edges find all that any number of rounds
finds. -/
theorem saturate_directGroups {rounds : Nat} (le : tables.edges.length ≤ rounds)
    (memberKind memberKey : String) :
    tables.saturate rounds
      (tables.directGroups (.text memberKind) (.text memberKey)) =
      tables.ancestry (.text memberKind) (.text memberKey) :=
  saturate_eq_of_le (tables.directGroups_reach memberKind memberKey) le

/-- The stored groups to which edges lead from a member are answered for it. -/
theorem Sound.isRoll_resolve (sound : tables.Sound) {kind : MemberKind}
    {id : String} {member : EntityRow} (stored : member ∈ tables.entities)
    (placed : member.place = placeOf kind.entityKind id) :
    ∃ groups, Replica.resolve kind id tables = .ok groups ∧
      IsRoll
        (fun name => ∃ group ∈ tables.entities, group.id = .text name ∧
          TransGen tables.Leads member.place group.place)
        groups := by
  have held : tables.holds kind.entityKind (fold id) = true := by
    rw [holds_iff]
    exact List.mem_map.mpr ⟨member, stored, placed⟩
  unfold Replica.resolve
  dsimp only
  rw [if_pos held]
  refine ⟨_, rfl, sound.isRoll_effectiveGroups.ordered, fun name => ?_⟩
  rw [sound.isRoll_effectiveGroups.mem_iff, placed]
  refine exists_congr fun group => and_congr_right fun _ => ?_
  constructor
  · rintro ⟨isGroup, named, ancestor⟩
    have path := ancestor_iff_transGen.mp ancestor
    rw [← isGroup] at path
    exact ⟨named, path⟩
  · rintro ⟨named, path⟩
    have isGroup : group.kind = .text EntityKind.group.name :=
      kind_of_path path Leads.isGroup
    refine ⟨isGroup, named, ancestor_iff_transGen.mpr ?_⟩
    rw [← isGroup]
    exact path

/-- The group that has the id of a stored group is that group. -/
theorem Sound.exists_named_iff (sound : tables.Sound) {member : EntityRow}
    (stored : member ∈ tables.entities)
    (isGroup : member.kind = .text EntityKind.group.name) {name : String}
    (named : member.id = .text name) :
    (∃ group ∈ tables.entities, group.id = .text name ∧
        TransGen tables.Leads member.place group.place) ↔
      TransGen tables.Leads member.place member.place := by
  constructor
  · rintro ⟨group, listed, sameName, path⟩
    obtain ⟨_, memberId, memberKey⟩ := (sound.isRecord member stored).exists_id
    obtain ⟨_, groupId, groupKey⟩ := (sound.isRecord group listed).exists_id
    cases named.symm.trans memberId
    cases sameName.symm.trans groupId
    have same : group.place = member.place := by
      refine Prod.ext ?_ (groupKey.trans memberKey.symm)
      exact (kind_of_path path Leads.isGroup).trans isGroup.symm
    rw [same] at path
    exact path
  · exact fun path => ⟨member, stored, named, path⟩

end Tables

namespace Replica

variable {replica : Replica}

theorem Reached.lived (reached : Reached replica) : Lived replica := by
  refine reached.mono ?_ ?_
  · rintro replica ⟨settings, converter, connected⟩
    exact ⟨settings, converter, {}, connected⟩
  · exact fun _ _ _ _ own => Operation.isCounted_of_own own

/-- The groups of a stored member are those that can be reached from it by one
edge or more, each once and in the order of the folded ids. It takes no more
rounds to find them than there are edges, and a group is among its own groups
exactly if edges lead from it back to it. -/
theorem effectiveGroups_are_closure (reached : Reached replica)
    {tables : Tables} (readable : replica.readTables = .ok tables)
    {kind : MemberKind} {id : String} {member : EntityRow}
    (stored : member ∈ tables.entities)
    (placed : member.place = placeOf kind.entityKind id) :
    (∀ rounds, tables.edges.length ≤ rounds →
      tables.saturate rounds
        (tables.directGroups (.text kind.name) (.text (fold id))) =
        tables.ancestry (.text kind.name) (.text (fold id))) ∧
    ∃ groups, ((effectiveGroups kind id).run replica).1 = .ok groups ∧
      IsRoll
        (fun name => ∃ group ∈ tables.entities, group.id = .text name ∧
          TransGen tables.Leads member.place group.place)
        groups ∧
      (kind = .group → ∀ name, member.id = .text name →
        (name ∈ groups ↔ TransGen tables.Leads member.place member.place)) := by
  obtain rfl : tables = replica.tables := tables_of_readTables readable
  have sound := reached.sound
  obtain ⟨_, opened, _⟩ := Answer.bind_eq_ok_iff.mp readable
  have rightly := reached.lived.rightly (isOpen_of_openTables opened)
  obtain ⟨groups, resolved, roll⟩ := sound.isRoll_resolve stored placed
  obtain ⟨memo, answered, _⟩ := rightly.effectiveGroups kind id
  refine ⟨fun rounds le =>
    Tables.saturate_directGroups le _ _, groups, ?_, roll, ?_⟩
  · rw [answered, readable]
    exact resolved
  · rintro rfl name named
    have isGroup : member.kind = .text EntityKind.group.name :=
      congrArg Prod.fst placed
    rw [roll.mem_iff, sound.exists_named_iff stored isGroup named]

/-- A replica after calls with an authority. -/
def afterCalls {α : Type} [Authority α] (authority : α) (replica : Replica)
    (calls : List SyncCall) : Replica :=
  calls.foldl
    (fun replica call => (call.run ⟨replica, authority⟩).2.replica)
    replica

theorem Reached.afterCalls {α : Type} [Authority α] (reached : Reached replica)
    (authority : α) (calls : List SyncCall) :
    Reached (afterCalls authority replica calls) := by
  induction calls generalizing replica with
  | nil => exact reached
  | cons call rest inductionHypothesis =>
      exact inductionHypothesis (reached.call authority call)

/-- A replica of two groups that are members of each other, and of a user with
the id of one. -/
def entangled : Replica :=
  afterCalls
    (RosterEdit.applyAll {}
      [.putGroup ⟨"Staff", none, [], []⟩, .putGroup ⟨"Everyone", none, [], []⟩,
        .putUser ⟨"Staff", none, none, none, none, true, []⟩])
    unfilled
    [.reset, .upsertAllGroups, .upsertAllUsers,
      .upsertMembership ⟨"everyone", .group, "sTaff"⟩,
      .upsertMembership ⟨"Staff", .group, "EVERYONE"⟩, .markSynchronized]

theorem reached_entangled : Reached entangled :=
  reached_unfilled.afterCalls _ _

/-- The group belongs to itself by way of the other one, the user to nothing. -/
theorem effectiveGroups_are_closure_entangled :
    (∃ groups, ((effectiveGroups .group "sTaff").run entangled).1 = .ok groups ∧
      "Staff" ∈ groups ∧ "Everyone" ∈ groups) ∧
      ((effectiveGroups .user "sTaff").run entangled).1 = .ok [] := by
  let staff : EntityRow := .ofGroup "staff" ⟨"Staff", none, [], []⟩
  let everyone : EntityRow := .ofGroup "everyone" ⟨"Everyone", none, [], []⟩
  have readable : entangled.readTables = .ok entangled.tables := by
    decide +kernel
  have staffStored : staff ∈ entangled.tables.entities := by decide +kernel
  have everyoneStored : everyone ∈ entangled.tables.entities := by
    decide +kernel
  have placed : staff.place = placeOf MemberKind.group.entityKind "sTaff" := by
    decide +kernel
  have upward : entangled.tables.Leads staff.place everyone.place :=
    ⟨.ofKeys "everyone" .group "staff", by decide +kernel, rfl, rfl⟩
  have back : entangled.tables.Leads everyone.place staff.place :=
    ⟨.ofKeys "staff" .group "everyone", by decide +kernel, rfl, rfl⟩
  obtain ⟨_, groups, answered, roll, itself⟩ :=
    effectiveGroups_are_closure reached_entangled readable staffStored placed
  refine ⟨⟨groups, answered, ?_, ?_⟩, by decide +kernel⟩
  · exact (itself rfl "Staff" rfl).mpr (.tail (.single upward) back)
  · exact (roll.mem_iff "Everyone").mpr
      ⟨everyone, everyoneStored, rfl, .single upward⟩

end Replica

end CachedDirectory
