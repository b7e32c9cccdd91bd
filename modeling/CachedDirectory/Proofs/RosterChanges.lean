import CachedDirectory.Proofs.ResyncProgress

/-!
# Changes of a roster in rows

What each change of a roster does to the rows as which its records and its edges
are stored. A record that is put in takes the place of an earlier one; records
and edges are removed by the place of a record, as they are in a store.
-/

namespace CachedDirectory

open Text

namespace Register

variable {α : Type} {key : String} {record : α} {register : Register α}
  {idOf : α → String}

theorem mem_insertEntry_iff {entries : List (String × α)}
    (sorted : entries.Pairwise fun left right => left.1 < right.1)
    {entry : String × α} :
    entry ∈ insertEntry key record entries ↔
      entry = (key, record) ∨ entry ∈ entries ∧ entry.1 ≠ key := by
  induction entries with
  | nil => simp [insertEntry]
  | cons first rest inductionHypothesis =>
      obtain ⟨smallest, restSorted⟩ := List.pairwise_cons.mp sorted
      unfold insertEntry
      split
      · rename_i smaller
        have different : first.1 ≠ key := by
          rintro rfl
          exact String.lt_irrefl _ smaller
        rw [List.mem_cons, List.mem_cons, inductionHypothesis restSorted]
        constructor
        · rintro (rfl | put | ⟨later, apart⟩)
          · exact Or.inr ⟨Or.inl rfl, different⟩
          · exact Or.inl put
          · exact Or.inr ⟨Or.inr later, apart⟩
        · rintro (put | ⟨rfl | later, apart⟩)
          · exact Or.inr (Or.inl put)
          · exact Or.inl rfl
          · exact Or.inr (Or.inr ⟨later, apart⟩)
      · rename_i notSmaller
        have behind : ∀ entry ∈ rest, entry.1 ≠ key := by
          rintro entry later rfl
          exact notSmaller (smallest entry later)
        split
        · rename_i same
          rw [List.mem_cons, List.mem_cons]
          constructor
          · rintro (put | later)
            · exact Or.inl put
            · exact Or.inr ⟨Or.inr later, behind entry later⟩
          · rintro (put | ⟨rfl | later, apart⟩)
            · exact Or.inl put
            · exact absurd same apart
            · exact Or.inr later
        · rename_i different
          rw [List.mem_cons, List.mem_cons]
          constructor
          · rintro (put | rfl | later)
            · exact Or.inl put
            · exact Or.inr ⟨Or.inl rfl, different⟩
            · exact Or.inr ⟨Or.inr later, behind entry later⟩
          · rintro (put | ⟨there, _⟩)
            · exact Or.inl put
            · exact Or.inr there

/-- A record that is put in replaces the one with the same folded id. -/
theorem Sorted.mem_toList_insert (sorted : register.Sorted)
    (keys : ∀ entry ∈ register.entries, entry.1 = fold (idOf entry.2))
    (record other : α) :
    other ∈ (register.insert (fold (idOf record)) record).toList ↔
      other = record ∨
          other ∈ register.toList ∧ fold (idOf other) ≠ fold (idOf record) := by
  constructor
  · intro listed
    obtain ⟨entry, member, rfl⟩ := List.mem_map.mp listed
    rcases (mem_insertEntry_iff sorted).mp member with rfl | ⟨there, apart⟩
    · exact Or.inl rfl
    · rw [keys entry there] at apart
      exact Or.inr ⟨List.mem_map_of_mem there, apart⟩
  · rintro (rfl | ⟨listed, apart⟩)
    · exact List.mem_map.mpr
        ⟨_, (mem_insertEntry_iff sorted).mpr (Or.inl rfl), rfl⟩
    · obtain ⟨entry, there, rfl⟩ := List.mem_map.mp listed
      rw [← keys entry there] at apart
      exact List.mem_map.mpr
        ⟨entry, (mem_insertEntry_iff sorted).mpr (Or.inr ⟨there, apart⟩), rfl⟩

theorem mem_toList_erase
    (keys : ∀ entry ∈ register.entries, entry.1 = fold (idOf entry.2))
    (id : String) (other : α) :
    other ∈ (register.erase (fold id)).toList ↔
      other ∈ register.toList ∧ fold (idOf other) ≠ fold id := by
  constructor
  · intro listed
    obtain ⟨entry, member, rfl⟩ := List.mem_map.mp listed
    obtain ⟨there, kept⟩ := List.mem_filter.mp member
    rw [keys entry there, bne_iff_ne] at kept
    exact ⟨List.mem_map_of_mem there, kept⟩
  · rintro ⟨listed, apart⟩
    obtain ⟨entry, there, rfl⟩ := List.mem_map.mp listed
    rw [← keys entry there] at apart
    exact List.mem_map_of_mem
      (List.mem_filter.mpr ⟨there, bne_iff_ne.mpr apart⟩)

end Register

/-- Where a record of a kind with an id stands. -/
def placeOf (kind : EntityKind) (id : String) : SqlValue × SqlValue :=
  (.text kind.name, .text (fold id))

theorem placeOf_inj {kind : EntityKind} {id other : String} :
    placeOf kind id = placeOf kind other ↔ fold id = fold other := by
  simp [placeOf]

theorem placeOf_group_ne_user (id other : String) :
    placeOf .group id ≠ placeOf .user other := by
  simp [placeOf, EntityKind.name]

theorem place_ofGroup (group : Group) :
    (EntityRow.ofGroup (fold group.id) group).place = placeOf .group group.id :=
  rfl

theorem place_ofUser (user : User) :
    (EntityRow.ofUser (fold user.id) user).place = placeOf .user user.id :=
  rfl

theorem place_ne_of_mem_ofGroups {row : EntityRow} (groups : List Group)
    (id : String) (listed : row ∈ EntityRow.ofGroups groups) :
    row.place ≠ placeOf .user id := by
  obtain ⟨group, _, rfl⟩ := List.mem_map.mp listed
  exact placeOf_group_ne_user group.id id

theorem place_ne_of_mem_ofUsers {row : EntityRow} (users : List User)
    (id : String) (listed : row ∈ EntityRow.ofUsers users) :
    row.place ≠ placeOf .group id := by
  obtain ⟨user, _, rfl⟩ := List.mem_map.mp listed
  exact (placeOf_group_ne_user id user.id).symm

namespace Register

variable {α : Type} {register : Register α} {idOf : α → String}
  {rowOf : α → EntityRow}
  {kind : EntityKind} {row : EntityRow}

/-- The row of a record that is put in replaces the one at its place. -/
theorem Sorted.mem_map_insert (sorted : register.Sorted)
    (keys : ∀ entry ∈ register.entries, entry.1 = fold (idOf entry.2))
    (places : ∀ record, (rowOf record).place = placeOf kind (idOf record))
    (record : α) :
    row ∈ (register.insert (fold (idOf record)) record).toList.map rowOf ↔
      row = rowOf record ∨
        row ∈ register.toList.map rowOf ∧
            row.place ≠ placeOf kind (idOf record) := by
  have listed := sorted.mem_toList_insert keys record
  constructor
  · intro member
    obtain ⟨other, there, rfl⟩ := List.mem_map.mp member
    rcases (listed other).mp there with rfl | ⟨earlier, apart⟩
    · exact Or.inl rfl
    · rw [places]
      exact Or.inr ⟨List.mem_map_of_mem earlier, mt placeOf_inj.mp apart⟩
  · rintro (rfl | ⟨member, apart⟩)
    · exact List.mem_map_of_mem ((listed record).mpr (Or.inl rfl))
    · obtain ⟨other, there, rfl⟩ := List.mem_map.mp member
      rw [places] at apart
      exact List.mem_map_of_mem
        ((listed other).mpr (Or.inr ⟨there, mt placeOf_inj.mpr apart⟩))

theorem mem_map_erase
    (keys : ∀ entry ∈ register.entries, entry.1 = fold (idOf entry.2))
    (places : ∀ record, (rowOf record).place = placeOf kind (idOf record))
    (id : String) :
    row ∈ (register.erase (fold id)).toList.map rowOf ↔
      row ∈ register.toList.map rowOf ∧ row.place ≠ placeOf kind id := by
  have listed := mem_toList_erase keys id
  constructor
  · intro member
    obtain ⟨other, there, rfl⟩ := List.mem_map.mp member
    obtain ⟨earlier, apart⟩ := (listed other).mp there
    rw [places]
    exact ⟨List.mem_map_of_mem earlier, mt placeOf_inj.mp apart⟩
  · rintro ⟨member, apart⟩
    obtain ⟨other, there, rfl⟩ := List.mem_map.mp member
    rw [places] at apart
    exact List.mem_map_of_mem
      ((listed other).mpr ⟨there, mt placeOf_inj.mpr apart⟩)

end Register

namespace Roster

variable {roster : Roster} {row : EntityRow} {edgeRow : EdgeRow}

/-! ## Records -/

/-- What is stored of the records does not depend on the edges at them. -/
theorem entityRows_eq (roster : Roster) :
    roster.entityRows =
      EntityRow.ofGroups roster.groupRecords.toList ++
        EntityRow.ofUsers roster.userRecords.toList := by
  rw [entityRows, groups, users, EntityRow.ofGroups, EntityRow.ofUsers,
    List.map_map, List.map_map]
  rfl

theorem entityRows_addEdge (roster : Roster) (edge : Membership) :
    (roster.addEdge edge).entityRows = roster.entityRows := by
  rw [entityRows_eq, entityRows_eq]
  unfold addEdge
  split <;> rfl

theorem entityRows_removeEdge (roster : Roster) (edge : Membership) :
    (roster.removeEdge edge).entityRows = roster.entityRows := by
  rw [entityRows_eq, entityRows_eq]
  rfl

theorem mem_entityRows_iff : row ∈ roster.entityRows ↔
    (∃ group ∈ roster.groupRecords.toList,
      row = .ofGroup (fold group.id) group) ∨
      ∃ user ∈ roster.userRecords.toList,
          row = .ofUser (fold user.id) user := by
  rw [entityRows_eq, List.mem_append, EntityRow.ofGroups, EntityRow.ofUsers,
    List.mem_map, List.mem_map]
  refine or_congr (exists_congr fun group => and_congr_right fun _ => eq_comm)
    ?_
  exact exists_congr fun user => and_congr_right fun _ => eq_comm

theorem ofGroup_completeGroup (roster : Roster) (group : Group) :
    EntityRow.ofGroup (fold (roster.completeGroup group).id)
      (roster.completeGroup group) =
      .ofGroup (fold group.id) group :=
  rfl

theorem ofUser_completeUser (roster : Roster) (user : User) :
    EntityRow.ofUser (fold (roster.completeUser user).id)
      (roster.completeUser user) =
      .ofUser (fold user.id) user :=
  rfl

/-- A group that was put in is found under every spelling of its id. -/
theorem Sound.group?_putGroup (sound : roster.Sound) {group : Group}
    {id : String} (same : fold id = fold group.id) :
    (roster.putGroup group).group? id =
        some ((roster.putGroup group).completeGroup group) := by
  have sorted : (roster.putGroup group).groupRecords.Sorted :=
    sound.sorted_groups.insert (fold group.id) group
  have there :
      (fold group.id, group) ∈ (roster.putGroup group).groupRecords.entries :=
    (Register.mem_insertEntry_iff sound.sorted_groups).mpr (Or.inl rfl)
  rw [group?, same, sorted.get?_eq_some_iff.mpr there, Option.map_some]

theorem Sound.user?_putUser (sound : roster.Sound) {user : User} {id : String}
    (same : fold id = fold user.id) :
    (roster.putUser user).user? id =
        some ((roster.putUser user).completeUser user) := by
  have sorted : (roster.putUser user).userRecords.Sorted :=
    sound.sorted_users.insert (fold user.id) user
  have there :
      (fold user.id, user) ∈ (roster.putUser user).userRecords.entries :=
    (Register.mem_insertEntry_iff sound.sorted_users).mpr (Or.inl rfl)
  rw [user?, same, sorted.get?_eq_some_iff.mpr there, Option.map_some]

theorem Sound.mem_entityRows_putGroup (sound : roster.Sound) (group : Group) :
    row ∈ (roster.putGroup group).entityRows ↔
      row = .ofGroup (fold group.id) group ∨
        row ∈ roster.entityRows ∧ row.place ≠ placeOf .group group.id := by
  have groups :
      row ∈ EntityRow.ofGroups
          (roster.putGroup group).groupRecords.toList ↔ _ :=
    sound.sorted_groups.mem_map_insert sound.keys_groups place_ofGroup group
  have users : row ∈ EntityRow.ofUsers roster.userRecords.toList →
      row.place ≠ placeOf .group group.id := place_ne_of_mem_ofUsers _ _
  rw [entityRows_eq, entityRows_eq, List.mem_append, List.mem_append, groups]
  tauto

theorem Sound.mem_entityRows_putUser (sound : roster.Sound) (user : User) :
    row ∈ (roster.putUser user).entityRows ↔
      row = .ofUser (fold user.id) user ∨
        row ∈ roster.entityRows ∧ row.place ≠ placeOf .user user.id := by
  have users :
      row ∈ EntityRow.ofUsers (roster.putUser user).userRecords.toList ↔ _ :=
    sound.sorted_users.mem_map_insert sound.keys_users place_ofUser user
  have groups : row ∈ EntityRow.ofGroups roster.groupRecords.toList →
      row.place ≠ placeOf .user user.id := place_ne_of_mem_ofGroups _ _
  rw [entityRows_eq, entityRows_eq, List.mem_append, List.mem_append, users]
  tauto

theorem Sound.mem_entityRows_removeGroup (sound : roster.Sound) (id : String) :
    row ∈ (roster.removeGroup id).entityRows ↔
      row ∈ roster.entityRows ∧ row.place ≠ placeOf .group id := by
  have groups :
      row ∈ EntityRow.ofGroups
          (roster.removeGroup id).groupRecords.toList ↔ _ :=
    Register.mem_map_erase sound.keys_groups place_ofGroup id
  have users : row ∈ EntityRow.ofUsers roster.userRecords.toList →
      row.place ≠ placeOf .group id := place_ne_of_mem_ofUsers _ _
  rw [entityRows_eq, entityRows_eq, List.mem_append, List.mem_append, groups]
  tauto

theorem Sound.mem_entityRows_removeUser (sound : roster.Sound) (id : String) :
    row ∈ (roster.removeUser id).entityRows ↔
      row ∈ roster.entityRows ∧ row.place ≠ placeOf .user id := by
  have users :
      row ∈ EntityRow.ofUsers (roster.removeUser id).userRecords.toList ↔ _ :=
    Register.mem_map_erase sound.keys_users place_ofUser id
  have groups : row ∈ EntityRow.ofGroups roster.groupRecords.toList →
      row.place ≠ placeOf .user id := place_ne_of_mem_ofGroups _ _
  rw [entityRows_eq, entityRows_eq, List.mem_append, List.mem_append, users]
  tauto

/-! ## Edges -/

/-- The rows of all edges, also of those without a record at one of their
ends. -/
def allEdgeRows (roster : Roster) : List EdgeRow :=
  roster.edges.map EdgeRow.ofMembership

theorem ofMembership_eq_iff {left right : Membership} :
    EdgeRow.ofMembership left = EdgeRow.ofMembership right ↔
        left.identity = right.identity := by
  refine ⟨ofMembership_injective, fun same => ?_⟩
  simp only [Membership.identity, Prod.mk.injEq] at same
  rw [EdgeRow.ofMembership, EdgeRow.ofMembership, same.1, same.2.1, same.2.2]

/-- Edges are removed alike if it is told from their rows which ones are
kept. -/
theorem mem_map_ofMembership_filter {edges : List Membership}
    {keep : Membership → Bool} {kept : EdgeRow → Prop}
    (same : ∀ edge, keep edge = true ↔ kept (.ofMembership edge)) :
    edgeRow ∈ (edges.filter keep).map EdgeRow.ofMembership ↔
      edgeRow ∈ edges.map EdgeRow.ofMembership ∧ kept edgeRow := by
  constructor
  · intro listed
    obtain ⟨edge, member, rfl⟩ := List.mem_map.mp listed
    obtain ⟨there, holds⟩ := List.mem_filter.mp member
    exact ⟨List.mem_map_of_mem there, (same edge).mp holds⟩
  · rintro ⟨listed, holds⟩
    obtain ⟨edge, there, rfl⟩ := List.mem_map.mp listed
    exact List.mem_map_of_mem
      (List.mem_filter.mpr ⟨there, (same edge).mpr holds⟩)

theorem groupPlace_ofMembership (edge : Membership) :
    (EdgeRow.ofMembership edge).groupPlace = placeOf .group edge.groupId :=
  rfl

theorem memberPlace_ofMembership (edge : Membership) :
    (EdgeRow.ofMembership edge).memberPlace =
        placeOf edge.memberKind.entityKind edge.memberId :=
  rfl

theorem placeOf_eq_iff {kind other : EntityKind} {id otherId : String} :
    placeOf kind id = placeOf other otherId ↔
        kind = other ∧ fold id = fold otherId := by
  constructor
  · intro same
    obtain ⟨kinds, keys⟩ := Prod.mk.inj same
    exact ⟨EntityKind.name_injective (SqlValue.text.inj kinds),
      SqlValue.text.inj keys⟩
  · rintro ⟨rfl, same⟩
    exact placeOf_inj.mpr same

theorem entityKind_eq_iff {kind other : MemberKind} :
    kind.entityKind = other.entityKind ↔ kind = other := by
  cases kind <;> cases other <;> decide

theorem hasGroup_iff_place (id : String) (edge : Membership) :
    hasGroup (fold id) edge = true ↔
      (EdgeRow.ofMembership edge).groupPlace = placeOf .group id := by
  rw [groupPlace_ofMembership, placeOf_inj, hasGroup, beq_iff_eq]

theorem hasMember_iff_place (kind : MemberKind) (id : String)
    (edge : Membership) :
    hasMember kind (fold id) edge = true ↔
      (EdgeRow.ofMembership edge).memberPlace = placeOf kind.entityKind id := by
  rw [memberPlace_ofMembership, placeOf_eq_iff, entityKind_eq_iff, hasMember,
    Bool.and_eq_true, beq_iff_eq, beq_iff_eq]

theorem mem_allEdgeRows_removeGroup (id : String) :
    edgeRow ∈ (roster.removeGroup id).allEdgeRows ↔
      edgeRow ∈ roster.allEdgeRows ∧ edgeRow.memberPlace ≠ placeOf .group id ∧
        edgeRow.groupPlace ≠ placeOf .group id := by
  apply mem_map_ofMembership_filter
  intro edge
  have group := hasGroup_iff_place id edge
  have member := hasMember_iff_place .group id edge
  rw [MemberKind.entityKind] at member
  rw [Ne, Ne, ←
    group, ←
      member, Bool.not_eq_true', Bool.or_eq_false_iff, Bool.not_eq_true,
        Bool.not_eq_true]
  exact and_comm

theorem mem_allEdgeRows_removeUser (id : String) :
    edgeRow ∈ (roster.removeUser id).allEdgeRows ↔
      edgeRow ∈ roster.allEdgeRows ∧
          edgeRow.memberPlace ≠ placeOf .user id := by
  apply mem_map_ofMembership_filter
  intro edge
  have member := hasMember_iff_place .user id edge
  rw [MemberKind.entityKind] at member
  rw [Ne, ← member, Bool.not_eq_true', Bool.not_eq_true]

theorem mem_allEdgeRows_removeEdge (edge : Membership) :
    edgeRow ∈ (roster.removeEdge edge).allEdgeRows ↔
      edgeRow ∈ roster.allEdgeRows ∧ edgeRow ≠ .ofMembership edge := by
  apply mem_map_ofMembership_filter
  intro other
  rw [Ne, ofMembership_eq_iff, ←
    Membership.same_iff, Bool.not_eq_true', Bool.not_eq_true]

theorem mem_allEdgeRows_addEdge (edge : Membership) :
    edgeRow ∈ (roster.addEdge edge).allEdgeRows ↔
      edgeRow ∈ roster.allEdgeRows ∨ edgeRow = .ofMembership edge := by
  unfold addEdge
  split
  · rename_i there
    obtain ⟨other, listed, same⟩ := List.any_eq_true.mp there
    have row : EdgeRow.ofMembership edge ∈ roster.allEdgeRows := by
      rw [← ofMembership_eq_iff.mpr (Membership.same_iff.mp same)]
      exact List.mem_map_of_mem listed
    refine ⟨Or.inl, ?_⟩
    rintro (earlier | rfl)
    · exact earlier
    · exact row
  · rw [allEdgeRows, List.map_append, List.mem_append, List.map_singleton,
      List.mem_singleton]
    rfl

end Roster

end CachedDirectory
