import CachedDirectory.Proofs.Ancestry
import CachedDirectory.Proofs.LiveSearches

/-!
# Live walks over groups

A live walk visits each group once. Visiting a group makes its edges pending and
takes the group itself from the groups whose edges could still become so, so the
walk ends within its rounds, whatever cycles the edges form. What it has found
in the end are the groups with records to which edges lead from the member,
through groups with records only.
-/

namespace CachedDirectory

open Text

namespace Roster

variable {roster : Roster} {kind : MemberKind} {id other : String}

theorem hasMember_iff {key : String} {edge : Membership} :
    hasMember kind key edge = true ↔
        edge.memberKind = kind ∧ fold edge.memberId = key := by
  simp [hasMember]

theorem group?_congr (same : fold id = fold other) :
    roster.group? id = roster.group? other := by
  rw [group?, group?, same]

theorem Sound.mem_groups_of_group? (sound : roster.Sound) {group : Group}
    (found : roster.group? id = some group) :
    group ∈ roster.groups ∧ fold group.id = fold id := by
  unfold group? at found
  obtain ⟨record, stored, rfl⟩ := Option.map_eq_some_iff.mp found
  have entry := sound.sorted_groups.get?_eq_some_iff.mp stored
  exact ⟨List.mem_map_of_mem (List.mem_map_of_mem entry),
    (sound.keys_groups _ entry).symm⟩

theorem Sound.group?_of_mem_groups (sound : roster.Sound) {group : Group}
    (listed : group ∈ roster.groups) : roster.group? group.id = some group := by
  obtain ⟨record, stored, rfl⟩ := List.mem_map.mp listed
  obtain ⟨⟨key, record⟩, entry, rfl⟩ := List.mem_map.mp stored
  have keyed : key = fold (roster.completeGroup record).id :=
    sound.keys_groups _ entry
  exact Option.map_eq_some_iff.mpr
    ⟨record, sound.sorted_groups.get?_eq_some_iff.mpr (keyed ▸ entry), rfl⟩

theorem Sound.mem_users_of_user? (sound : roster.Sound) {user : User}
    (found : roster.user? id = some user) :
    user ∈ roster.users ∧ fold user.id = fold id := by
  unfold user? at found
  obtain ⟨record, stored, rfl⟩ := Option.map_eq_some_iff.mp found
  have entry := sound.sorted_users.get?_eq_some_iff.mp stored
  exact ⟨List.mem_map_of_mem (List.mem_map_of_mem entry),
    (sound.keys_users _ entry).symm⟩

theorem Sound.user?_of_mem_users (sound : roster.Sound) {user : User}
    (listed : user ∈ roster.users) : roster.user? user.id = some user := by
  obtain ⟨record, stored, rfl⟩ := List.mem_map.mp listed
  obtain ⟨⟨key, record⟩, entry, rfl⟩ := List.mem_map.mp stored
  have keyed : key = fold (roster.completeUser record).id :=
    sound.keys_users _ entry
  exact Option.map_eq_some_iff.mpr
    ⟨record, sound.sorted_users.get?_eq_some_iff.mpr (keyed ▸ entry), rfl⟩

theorem mem_parents_iff : other ∈ roster.parents kind id ↔
    ∃ edge ∈ roster.edges,
        hasMember kind (fold id) edge = true ∧ edge.groupId = other := by
  rw [parents, (perm_inOrder _ _).mem_iff]
  simp [and_assoc]

theorem length_parents (roster : Roster) (kind : MemberKind) (id : String) :
    (roster.parents kind id).length =
        roster.edges.countP (hasMember kind (fold id)) := by
  rw [parents, (perm_inOrder _ _).length_eq, List.length_map,
    List.countP_eq_length_filter]

theorem parents_congr (same : fold id = fold other) :
    roster.parents kind id = roster.parents kind other := by
  rw [parents, parents, same]

theorem Sound.memberOf_of_group? (sound : roster.Sound) {group : Group}
    (found : roster.group? id = some group) :
    group.memberOf = roster.parents .group id := by
  have same := (sound.mem_groups_of_group? found).2
  unfold group? at found
  obtain ⟨record, _, rfl⟩ := Option.map_eq_some_iff.mp found
  exact parents_congr same

theorem Sound.memberOf_of_user? (sound : roster.Sound) {user : User}
    (found : roster.user? id = some user) :
    user.memberOf = roster.parents .user id := by
  have same := (sound.mem_users_of_user? found).2
  unfold user? at found
  obtain ⟨record, _, rfl⟩ := Option.map_eq_some_iff.mp found
  exact parents_congr same

/-- The folded ids of the groups with records to which edges lead from a member,
through groups with records. -/
inductive Ancestor (roster : Roster) (kind : MemberKind) (key : String) :
    String → Prop
  | direct {edge : Membership} (listed : edge ∈ roster.edges)
      (member : hasMember kind key edge = true)
      (known : (roster.group? edge.groupId).isSome = true) :
      Ancestor roster kind key (fold edge.groupId)
  | through {edge : Membership} (listed : edge ∈ roster.edges)
      (group : edge.memberKind = .group)
      (below : Ancestor roster kind key (fold edge.memberId))
      (known : (roster.group? edge.groupId).isSome = true) :
      Ancestor roster kind key (fold edge.groupId)

theorem Ancestor.isSome_group? {key above : String}
    (ancestor : roster.Ancestor kind key above) (same : fold id = above) :
    (roster.group? id).isSome = true := by
  cases ancestor with
  | direct _ _ known => rwa [group?_congr same]
  | through _ _ _ known => rwa [group?_congr same]

end Roster

namespace Live

variable {roster : Roster} {kind : MemberKind} {key : String}

theorem run_fetch_group (live : Live) (granted : roster.isDenied = false)
    (id : String) :
    (live.fetch .group id).run roster =
        (.ok ((roster.group? id).map .group), roster) := by
  have answered : (Authority.ask (Authority.group id)).run roster =
      (.ok (roster.group? id), roster) := by
    show (Authority.ask (Roster.authorized fun roster => roster.group? id)).run
      roster = _
    rw [Roster.run_ask_authorized, granted]
    rfl
  exact Action.run_bind_ok answered

/-- A walk after a visit at a pending group. -/
def Walk.visit (roster : Roster) (id : String) (walk : Walk) : Walk :=
  if walk.seen.contains (fold id) then
    walk
  else
    match roster.group? id with
    | some group =>
        ⟨walk.pending ++ group.memberOf, fold id :: walk.seen,
          walk.found ++ [group.id]⟩
    | none => { walk with seen := fold id :: walk.seen }

theorem Walk.run_cons (live : Live) (granted : roster.isDenied = false)
    (rounds : Nat) (id : String) (pending seen found : List String) :
    Walk.run live (rounds + 1) ⟨id :: pending, seen, found⟩ roster =
      Walk.run live rounds (Walk.visit roster id ⟨pending, seen, found⟩)
          roster := by
  rw [Walk.run, Walk.visit]
  dsimp only
  split
  · rfl
  · rw [run_fetch_group live granted]
    cases roster.group? id <;> rfl

/-! ## The number of rounds -/

/-- The edges of groups that were not visited. -/
def Walk.isAhead (seen : List String) (edge : Membership) : Bool :=
  edge.memberKind == .group && !seen.contains (fold edge.memberId)

/-- A bound on the number of rounds that a walk still takes: each pending group
takes one, and so does each edge of a group that was not visited. -/
def Walk.remaining (roster : Roster) (walk : Walk) : Nat :=
  walk.pending.length + roster.edges.countP (Walk.isAhead walk.seen)

theorem Walk.countP_isAhead {seen : List String} (unseen : key ∉ seen)
    (edges : List Membership) :
    edges.countP (Walk.isAhead seen) =
      edges.countP (Roster.hasMember .group key) +
          edges.countP (Walk.isAhead (key :: seen)) := by
  induction edges with
  | nil => rfl
  | cons edge rest inductionHypothesis =>
      rw [List.countP_cons, List.countP_cons, List.countP_cons,
        inductionHypothesis]
      have parts : (if Walk.isAhead seen edge = true then 1 else 0) =
          (if Roster.hasMember .group key edge = true then 1 else 0) +
            if Walk.isAhead (key :: seen) edge = true then 1 else 0 := by
        by_cases group : edge.memberKind = .group
        · by_cases same : fold edge.memberId = key
          · simp [Walk.isAhead, Roster.hasMember, group, same, unseen]
          · simp [Walk.isAhead, Roster.hasMember, group, same]
        · simp [Walk.isAhead, Roster.hasMember, group]
      omega

theorem Walk.countP_isAhead_le (key : String) (seen : List String)
    (edges : List Membership) :
    edges.countP (Walk.isAhead (key :: seen)) ≤
        edges.countP (Walk.isAhead seen) := by
  apply List.countP_mono_left
  intro edge _ ahead
  simp only [Walk.isAhead, Bool.and_eq_true, Bool.not_eq_true',
    List.contains_cons, Bool.or_eq_false_iff] at ahead ⊢
  exact ⟨ahead.1, ahead.2.2⟩

theorem Walk.remaining_visit_lt (sound : roster.Sound) (id : String)
    (pending seen found : List String) :
    (Walk.visit roster id ⟨pending, seen, found⟩).remaining roster <
      Walk.remaining roster ⟨id :: pending, seen, found⟩ := by
  unfold Walk.visit
  dsimp only
  split
  · simp [remaining]
  · rename_i unseen
    have unseen : fold id ∉ seen := by simpa using unseen
    cases result : roster.group? id with
    | none =>
        have fewer := countP_isAhead_le (fold id) seen roster.edges
        simp only [remaining, List.length_cons]
        omega
    | some group =>
        have parts := countP_isAhead unseen roster.edges
        have length := roster.length_parents .group id
        rw [← sound.memberOf_of_group? result] at length
        simp only [remaining, List.length_cons, List.length_append]
        omega

/-- An edge can make a group pending twice: for the member, and for the group
that it leads from. -/
theorem Walk.remaining_parents_le (roster : Roster) (kind : MemberKind)
    (id : String) :
    Walk.remaining roster ⟨roster.parents kind id, [], []⟩ ≤
        2 * roster.edges.length := by
  have direct := roster.length_parents kind id
  have few :=
    List.countP_le_length (p := Roster.hasMember kind (fold id))
      (l := roster.edges)
  have ahead := List.countP_le_length (p := Walk.isAhead []) (l := roster.edges)
  rw [remaining]
  dsimp only
  omega

theorem length_edges_le_rounds (roster : Roster) :
    2 * roster.edges.length ≤ rounds roster := by
  show _ ≤ 2 * roster.size + 8
  rw [Roster.size]
  omega

/-! ## What is found -/

/-- What holds of a walk at every point: what was visited and what is pending
are groups to which edges lead, and no edge from the member or from a visited
group is left out. -/
structure Walk.Explores (roster : Roster) (kind : MemberKind) (key : String)
    (walk : Walk) :
    Prop where
  mem_found_iff : ∀ id, id ∈ walk.found ↔
    ∃ group, roster.group? id = some group ∧ group.id = id ∧ fold id ∈ walk.seen
  distinct : walk.found.Pairwise fun left right => fold left ≠ fold right
  seen : ∀ id, fold id ∈ walk.seen → (roster.group? id).isSome = true →
    roster.Ancestor kind key (fold id)
  pending : ∀ id ∈ walk.pending, (roster.group? id).isSome = true →
    roster.Ancestor kind key (fold id)
  start : ∀ edge ∈ roster.edges, Roster.hasMember kind key edge = true →
    fold edge.groupId ∈ walk.seen ∨ edge.groupId ∈ walk.pending
  onward :
    ∀ edge ∈ roster.edges,
      edge.memberKind = .group → fold edge.memberId ∈ walk.seen →
    (roster.group? edge.memberId).isSome = true →
      fold edge.groupId ∈ walk.seen ∨ edge.groupId ∈ walk.pending

theorem Walk.explores_parents (roster : Roster) (kind : MemberKind)
    (id : String) :
    Walk.Explores roster kind (fold id) ⟨roster.parents kind id, [], []⟩ where
  mem_found_iff _ := by simp
  distinct := List.Pairwise.nil
  seen _ visited := nomatch visited
  pending _ waits known := by
    obtain ⟨edge, listed, member, rfl⟩ := Roster.mem_parents_iff.mp waits
    exact .direct listed member known
  start edge listed member :=
    Or.inr (Roster.mem_parents_iff.mpr ⟨edge, listed, member, rfl⟩)
  onward _ _ _ visited := nomatch visited

/-- What was visited or pending still is when a pending group is visited. -/
theorem Walk.covered_of_covered {id groupId : String}
    {pending seen laterPending laterSeen : List String}
    (covered : fold groupId ∈ seen ∨ groupId ∈ id :: pending)
    (visited : fold id ∈ laterSeen) (seenKept : seen ⊆ laterSeen)
    (pendingKept : pending ⊆ laterPending) :
    fold groupId ∈ laterSeen ∨ groupId ∈ laterPending := by
  rcases covered with there | waits
  · exact Or.inl (seenKept there)
  · rcases List.mem_cons.mp waits with rfl | later
    · exact Or.inl visited
    · exact Or.inr (pendingKept later)

variable {id : String} {pending seen found : List String}

/-- A visit at a group that was visited before. -/
theorem Walk.Explores.skip
    (explores : Walk.Explores roster kind key ⟨id :: pending, seen, found⟩)
    (visited : fold id ∈ seen) :
    Walk.Explores roster kind key ⟨pending, seen, found⟩ where
  mem_found_iff := explores.mem_found_iff
  distinct := explores.distinct
  seen := explores.seen
  pending other waits := explores.pending other (List.mem_cons_of_mem id waits)
  start edge listed member :=
    covered_of_covered (explores.start edge listed member) visited
      (List.Subset.refl _)
      (List.Subset.refl _)
  onward edge listed group below known :=
    covered_of_covered (explores.onward edge listed group below known) visited
      (List.Subset.refl _) (List.Subset.refl _)

/-- A visit at a group without a record. -/
theorem Walk.Explores.miss
    (explores : Walk.Explores roster kind key ⟨id :: pending, seen, found⟩)
    (missing : roster.group? id = none) :
    Walk.Explores roster kind key ⟨pending, fold id :: seen, found⟩ := by
  have unknown : ∀ other, fold other = fold id → roster.group? other = none :=
    fun other same => (Roster.group?_congr same).trans missing
  have visited : fold id ∈ fold id :: seen := List.mem_cons_self
  have seenKept : seen ⊆ fold id :: seen := List.subset_cons_self _ _
  constructor
  case mem_found_iff =>
    intro other
    rw [explores.mem_found_iff]
    constructor
    · rintro ⟨group, found, same, there⟩
      exact ⟨group, found, same, seenKept there⟩
    · rintro ⟨group, found, same, there⟩
      rcases List.mem_cons.mp there with here | earlier
      · rw [unknown other here] at found
        cases found
      · exact ⟨group, found, same, earlier⟩
  case distinct => exact explores.distinct
  case seen =>
    intro other there known
    rcases List.mem_cons.mp there with here | earlier
    · rw [unknown other here] at known
      cases known
    · exact explores.seen other earlier known
  case pending => exact fun other waits =>
    explores.pending other (List.mem_cons_of_mem id waits)
  case start =>
    intro edge listed member
    exact covered_of_covered (explores.start edge listed member)
      visited seenKept
      (List.Subset.refl _)
  case onward =>
    intro edge listed group below known
    rcases List.mem_cons.mp below with here | earlier
    · rw [unknown _ here] at known
      cases known
    · exact covered_of_covered (explores.onward edge listed group earlier known)
        visited seenKept
        (List.Subset.refl _)

/-- A visit at a group with a record, which makes the groups of its edges
pending. -/
theorem Walk.Explores.take (sound : roster.Sound)
    (explores : Walk.Explores roster kind key ⟨id :: pending, seen, found⟩)
    (unseen : fold id ∉ seen) {record : Group}
    (known : roster.group? id = some record) :
    Walk.Explores roster kind key
      ⟨pending ++ record.memberOf, fold id :: seen, found ++ [record.id]⟩ := by
  have same := (sound.mem_groups_of_group? known).2
  have parents := sound.memberOf_of_group? known
  have isRecord :
      ∀ other, fold other = fold id → roster.group? other = some record :=
    fun other same => (Roster.group?_congr same).trans known
  have reached : roster.Ancestor kind key (fold id) :=
    explores.pending id List.mem_cons_self (by rw [known]; rfl)
  have visited : fold id ∈ fold id :: seen := List.mem_cons_self
  have seenKept : seen ⊆ fold id :: seen := List.subset_cons_self _ _
  have pendingKept : pending ⊆ pending ++ record.memberOf :=
    List.subset_append_left _ _
  constructor
  case mem_found_iff =>
    intro other
    rw [List.mem_append, List.mem_singleton, explores.mem_found_iff]
    constructor
    · rintro (⟨group, found, sameId, there⟩ | rfl)
      · exact ⟨group, found, sameId, seenKept there⟩
      · exact ⟨record, isRecord _ same, rfl, same ▸ visited⟩
    · rintro ⟨group, found, sameId, there⟩
      rcases List.mem_cons.mp there with here | earlier
      · rw [isRecord other here] at found
        cases found
        exact Or.inr sameId.symm
      · exact Or.inl ⟨group, found, sameId, earlier⟩
  case distinct =>
    rw [List.pairwise_append]
    refine ⟨explores.distinct, List.pairwise_singleton _ _, ?_⟩
    intro earlier listed last isLast equal
    rw [List.mem_singleton.mp isLast, same] at equal
    obtain ⟨_, _, _, there⟩ := (explores.mem_found_iff earlier).mp listed
    exact unseen (equal ▸ there)
  case seen =>
    intro other there isKnown
    rcases List.mem_cons.mp there with here | earlier
    · exact here ▸ reached
    · exact explores.seen other earlier isKnown
  case pending =>
    intro other waits isKnown
    rcases List.mem_append.mp waits with earlier | fresh
    · exact explores.pending other (List.mem_cons_of_mem id earlier) isKnown
    · rw [parents] at fresh
      obtain ⟨edge, listed, member, rfl⟩ := Roster.mem_parents_iff.mp fresh
      obtain ⟨group, sameMember⟩ := Roster.hasMember_iff.mp member
      exact .through listed group (sameMember ▸ reached) isKnown
  case start =>
    intro edge listed member
    exact covered_of_covered (explores.start edge listed member) visited
      seenKept pendingKept
  case onward =>
    intro edge listed group below isKnown
    rcases List.mem_cons.mp below with here | earlier
    · refine Or.inr (List.mem_append_right _ ?_)
      rw [parents]
      exact Roster.mem_parents_iff.mpr
        ⟨edge, listed, Roster.hasMember_iff.mpr ⟨group, here⟩, rfl⟩
    · exact covered_of_covered
        (explores.onward edge listed group earlier isKnown) visited seenKept
        pendingKept

theorem Walk.Explores.visit (sound : roster.Sound)
    (explores : Walk.Explores roster kind key ⟨id :: pending, seen, found⟩) :
    Walk.Explores roster kind key
        (Walk.visit roster id ⟨pending, seen, found⟩) := by
  unfold Walk.visit
  dsimp only
  split
  · rename_i visited
    exact explores.skip (by simpa using visited)
  · rename_i unseen
    cases result : roster.group? id with
    | none => exact explores.miss result
    | some record => exact explores.take sound (by simpa using unseen) result

/-- A walk ends when it has taken the rounds that remained. -/
theorem Walk.Explores.run (live : Live) (sound : roster.Sound)
    (granted : roster.isDenied = false) {walk : Walk}
    (explores : Walk.Explores roster kind key walk) {rounds : Nat}
    (enough : walk.remaining roster ≤ rounds) :
    ∃ seen found,
      Walk.run live rounds walk roster = (some (.ok found), roster) ∧
      Walk.Explores roster kind key ⟨[], seen, found⟩ := by
  induction rounds generalizing walk with
  | zero =>
      rcases walk with ⟨_ | ⟨id, pending⟩, seen, found⟩
      · exact ⟨seen, found, rfl, explores⟩
      · simp [Walk.remaining] at enough
  | succ rounds inductionHypothesis =>
      rcases walk with ⟨_ | ⟨id, pending⟩, seen, found⟩
      · exact ⟨seen, found, rfl, explores⟩
      · rw [Walk.run_cons live granted]
        have less := Walk.remaining_visit_lt sound id pending seen found
        exact inductionHypothesis (explores.visit sound) (by omega)

/-- When nothing is pending, what was found are the groups to which edges
lead. -/
theorem Walk.Explores.isRoll (sound : roster.Sound)
    (explores : Walk.Explores roster kind key ⟨[], seen, found⟩) :
    IsRoll
      (fun id =>
        ∃ group ∈ roster.groups,
          group.id = id ∧ roster.Ancestor kind key (fold id))
      (inOrder fold found) where
  ordered := by
    have perm := perm_inOrder fold found
    have distinct :=
      explores.distinct.perm perm.symm fun different => Ne.symm different
    exact ((pairwise_inOrder fold found).and distinct).imp fun both =>
      Std.lt_of_le_of_ne both.1 both.2
  mem_iff id := by
    have visited : ∀ other, roster.Ancestor kind key other → other ∈ seen := by
      intro other ancestor
      induction ancestor with
      | direct listed member known => simpa using explores.start _ listed member
      | through listed group below known inductionHypothesis =>
          simpa using explores.onward _ listed group inductionHypothesis
            (below.isSome_group? rfl)
    rw [(perm_inOrder fold found).mem_iff, explores.mem_found_iff]
    constructor
    · rintro ⟨group, known, same, there⟩
      refine ⟨group, (sound.mem_groups_of_group? known).1, same, ?_⟩
      exact explores.seen id there (by rw [known]; rfl)
    · rintro ⟨group, listed, rfl, ancestor⟩
      exact ⟨group, sound.group?_of_mem_groups listed, rfl, visited _ ancestor⟩

/-! ## What is answered -/

theorem run_fetch_user (live : Live) (granted : roster.isDenied = false)
    (id : String) :
    (live.fetch .user id).run roster =
        (.ok ((roster.user? id).map .user), roster) := by
  have answered : (Authority.ask (Authority.user id)).run roster =
      (.ok (roster.user? id), roster) := by
    show (Authority.ask (Roster.authorized fun roster => roster.user? id)).run
      roster = _
    rw [Roster.run_ask_authorized, granted]
    rfl
  exact Action.run_bind_ok answered

/-- A member without a record is not found; one with a record is handed out with
the groups that it is directly in. -/
theorem run_require (live : Live) (sound : roster.Sound)
    (granted : roster.isDenied = false) (kind : MemberKind) (id : String) :
    (roster.knows kind id = false ∧
        (live.require kind.entityKind id).run roster =
          (.error (.notFound kind.entityKind id), roster)) ∨
      (roster.knows kind id = true ∧
        ∃ member,
          (live.require kind.entityKind id).run roster = (.ok member, roster) ∧
          parents member = roster.parents kind id) := by
  cases kind with
  | group =>
      have fetched := run_fetch_group live granted id
      cases known : roster.group? id with
      | none =>
          rw [known] at fetched
          exact Or.inl ⟨by rw [Roster.knows, known]; rfl,
            Action.run_bind_ok fetched⟩
      | some group =>
          rw [known] at fetched
          refine Or.inr ⟨by rw [Roster.knows, known]; rfl, .group group, ?_, ?_⟩
          · exact Action.run_bind_ok fetched
          · exact sound.memberOf_of_group? known
  | user =>
      have fetched := run_fetch_user live granted id
      cases known : roster.user? id with
      | none =>
          rw [known] at fetched
          exact Or.inl ⟨by rw [Roster.knows, known]; rfl,
            Action.run_bind_ok fetched⟩
      | some user =>
          rw [known] at fetched
          refine Or.inr ⟨by rw [Roster.knows, known]; rfl, .user user, ?_, ?_⟩
          · exact Action.run_bind_ok fetched
          · exact sound.memberOf_of_user? known

/-- The groups of a member with a record are those to which edges lead. -/
theorem effectiveGroups_spec (sound : roster.Sound)
    (granted : roster.isDenied = false) (live : Live) (kind : MemberKind)
    (id : String) :
    (roster.knows kind id = false ∧
        live.effectiveGroups kind id roster =
          (some (.error (.notFound kind.entityKind id)), roster)) ∨
      (roster.knows kind id = true ∧
        ∃ groups,
          live.effectiveGroups kind id roster = (some (.ok groups), roster) ∧
          IsRoll
            (fun other => ∃ group ∈ roster.groups, group.id = other ∧
              roster.Ancestor kind (fold id) (fold other))
            groups) := by
  unfold effectiveGroups
  rcases run_require live sound granted kind id with
    ⟨missing, failed⟩ | ⟨known, member, handedOut, parentsOf⟩
  · rw [failed]
    exact Or.inl ⟨missing, rfl⟩
  · have enough :
        Walk.remaining roster ⟨roster.parents kind id, [], []⟩ ≤
            rounds roster :=
      (Walk.remaining_parents_le roster kind id).trans
        (length_edges_le_rounds roster)
    obtain ⟨seen, found, ran, explores⟩ :=
      (Walk.explores_parents roster kind id).run live sound granted enough
    rw [handedOut]
    dsimp only
    rw [parentsOf, ran]
    exact Or.inr ⟨known, inOrder fold found, rfl, explores.isRoll sound⟩

end Live

end CachedDirectory
