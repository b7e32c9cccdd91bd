import CachedDirectory.Authority.Edit
import CachedDirectory.Replica.Session
import Mathlib.Data.List.Nodup
import Mathlib.Data.List.Sort

/-!
# Rosters as authorities

A roster that came about by edits keeps each record once, under its folded id
and in the order of these, and each edge once. What it answers is a part of
three lists: its groups, its users and its edges in order.
-/

namespace CachedDirectory

open Text

namespace Register

variable {α : Type}

/-- Whether no two entries have the same key, and the keys increase. -/
def Sorted (register : Register α) : Prop :=
  register.entries.Pairwise fun left right => left.1 < right.1

theorem mem_insertEntry {key : String} {record : α}
    {entries : List (String × α)} {entry : String × α}
    (member : entry ∈ insertEntry key record entries) :
    entry = (key, record) ∨ entry ∈ entries := by
  induction entries with
  | nil => exact Or.inl (List.mem_singleton.mp member)
  | cons first rest inductionHypothesis =>
      unfold insertEntry at member
      split at member
      · rcases List.mem_cons.mp member with rfl | later
        · exact Or.inr List.mem_cons_self
        · exact (inductionHypothesis later).imp id (List.mem_cons_of_mem first)
      · split at member
        · exact (List.mem_cons.mp member).imp id (List.mem_cons_of_mem first)
        · exact List.mem_cons.mp member

theorem pairwise_insertEntry {key : String} {record : α}
    {entries : List (String × α)}
    (sorted : entries.Pairwise fun left right => left.1 < right.1) :
    (insertEntry key record entries).Pairwise fun left right =>
        left.1 < right.1 := by
  induction entries with
  | nil => exact List.pairwise_singleton _ _
  | cons first rest inductionHypothesis =>
      obtain ⟨smallest, restSorted⟩ := List.pairwise_cons.mp sorted
      unfold insertEntry
      split
      · apply List.pairwise_cons.mpr
        refine ⟨?_, inductionHypothesis restSorted⟩
        intro entry member
        rcases mem_insertEntry member with rfl | later
        · assumption
        · exact smallest entry later
      · split
        · rename_i same
          refine List.pairwise_cons.mpr ⟨?_, restSorted⟩
          exact fun entry member => same ▸ smallest entry member
        · rename_i notSmaller different
          have smaller : key < first.1 :=
            Std.lt_of_le_of_ne (String.not_lt.mp notSmaller) (Ne.symm different)
          apply List.pairwise_cons.mpr
          refine ⟨?_, sorted⟩
          intro entry member
          rcases List.mem_cons.mp member with rfl | later
          · exact smaller
          · exact String.lt_trans smaller (smallest entry later)

theorem Sorted.insert {register : Register α} (sorted : register.Sorted)
    (key : String) (record : α) : (register.insert key record).Sorted :=
  pairwise_insertEntry sorted

theorem Sorted.erase {register : Register α} (sorted : register.Sorted)
    (key : String) :
    (register.erase key).Sorted :=
  List.Pairwise.filter _ sorted

theorem Sorted.get?_eq_some_iff {register : Register α}
    (sorted : register.Sorted) {key : String} {record : α} :
    register.get? key = some record ↔ (key, record) ∈ register.entries := by
  unfold get?
  rcases register with ⟨entries⟩
  induction entries with
  | nil => simp
  | cons first rest inductionHypothesis =>
      obtain ⟨smallest, restSorted⟩ := List.pairwise_cons.mp sorted
      obtain ⟨firstKey, firstRecord⟩ := first
      by_cases same : key = firstKey
      · subst same
        rw [List.lookup_cons_self, List.mem_cons]
        constructor
        · intro equality
          cases equality
          exact Or.inl rfl
        · rintro (equality | later)
          · cases equality
            rfl
          · exact absurd (smallest (key, record) later) (String.lt_irrefl key)
      · rw [List.lookup_cons, beq_false_of_ne same, List.mem_cons]
        refine (inductionHypothesis restSorted).trans ⟨Or.inr, ?_⟩
        rintro (equality | later)
        · cases equality
          exact absurd rfl same
        · exact later

variable {register : Register α} {idOf : α → String}

/-- The records of a register that keeps them under their folded ids are in the
order of these. -/
theorem Sorted.pairwise_toList (sorted : register.Sorted)
    (keys : ∀ entry ∈ register.entries, entry.1 = fold (idOf entry.2)) :
    register.toList.Pairwise fun left right =>
        fold (idOf left) < fold (idOf right) := by
  rw [toList, List.pairwise_map]
  refine List.Pairwise.imp_of_mem ?_ sorted
  intro left right leftMember rightMember smaller
  rw [keys left leftMember, keys right rightMember] at smaller
  exact smaller

/-- There is a record under a folded id if one of the records has that id. -/
theorem Sorted.isSome_get?_iff (sorted : register.Sorted)
    (keys : ∀ entry ∈ register.entries, entry.1 = fold (idOf entry.2))
    {id : String} :
    (register.get? (fold id)).isSome = true ↔
      ∃ record ∈ register.toList, fold (idOf record) = fold id := by
  rw [Option.isSome_iff_exists]
  constructor
  · rintro ⟨record, found⟩
    have member := sorted.get?_eq_some_iff.mp found
    exact ⟨record, List.mem_map_of_mem member, (keys _ member).symm⟩
  · rintro ⟨record, listed, same⟩
    obtain ⟨⟨key, _⟩, member, rfl⟩ := List.mem_map.mp listed
    have keyed : key = fold id := (keys _ member).trans same
    exact ⟨_, sorted.get?_eq_some_iff.mpr (keyed ▸ member)⟩

end Register

namespace Membership

theorem same_iff {left right : Membership} :
    left.same right = true ↔ left.identity = right.identity := by
  simp [same]

end Membership

namespace Roster

/-- The invariant of rosters that come about by edits. -/
structure Sound (roster : Roster) : Prop where
  sorted_groups : roster.groupRecords.Sorted
  keys_groups : ∀ entry ∈ roster.groupRecords.entries, entry.1 = fold entry.2.id
  sorted_users : roster.userRecords.Sorted
  keys_users : ∀ entry ∈ roster.userRecords.entries, entry.1 = fold entry.2.id
  distinct_edges : (roster.edges.map Membership.identity).Nodup

theorem sound_empty : Sound {} where
  sorted_groups := List.Pairwise.nil
  keys_groups := fun _ member => nomatch member
  sorted_users := List.Pairwise.nil
  keys_users := fun _ member => nomatch member
  distinct_edges := List.nodup_nil

theorem nodup_identities_filter {edges : List Membership}
    (keep : Membership → Bool)
    (distinct : (edges.map Membership.identity).Nodup) :
    ((edges.filter keep).map Membership.identity).Nodup :=
  List.Nodup.sublist (List.filter_sublist.map _) distinct

theorem Sound.apply {roster : Roster} (sound : roster.Sound)
    (edit : RosterEdit) :
    (edit.apply roster).Sound := by
  cases edit with
  | putGroup group =>
      refine { sound with
        sorted_groups := sound.sorted_groups.insert (fold group.id) group
        keys_groups := ?_ }
      intro entry member
      rcases Register.mem_insertEntry member with rfl | earlier
      · rfl
      · exact sound.keys_groups entry earlier
  | putUser user =>
      refine { sound with
        sorted_users := sound.sorted_users.insert (fold user.id) user
        keys_users := ?_ }
      intro entry member
      rcases Register.mem_insertEntry member with rfl | earlier
      · rfl
      · exact sound.keys_users entry earlier
  | addEdge edge =>
      show (roster.addEdge edge).Sound
      unfold addEdge
      split
      · exact sound
      · rename_i absent
        refine { sound with distinct_edges := ?_ }
        have fresh : edge.identity ∉ roster.edges.map Membership.identity := by
          intro member
          obtain ⟨other, otherMember, same⟩ := List.mem_map.mp member
          exact absent (List.any_eq_true.mpr
            ⟨other, otherMember, Membership.same_iff.mpr same⟩)
        rw [List.map_append, List.map_singleton, ← List.concat_eq_append]
        exact (List.nodup_concat _ _).mpr ⟨fresh, sound.distinct_edges⟩
  | removeEdge edge =>
      exact { sound with
        distinct_edges := nodup_identities_filter _ sound.distinct_edges }
  | removeGroup id =>
      exact { sound with
        sorted_groups := sound.sorted_groups.erase (fold id)
        keys_groups := fun entry member =>
          sound.keys_groups entry (List.mem_of_mem_filter member)
        distinct_edges := nodup_identities_filter _ sound.distinct_edges }
  | removeUser id =>
      exact { sound with
        sorted_users := sound.sorted_users.erase (fold id)
        keys_users :=
          fun entry member =>
            sound.keys_users entry (List.mem_of_mem_filter member)
        distinct_edges := nodup_identities_filter _ sound.distinct_edges }
  | deny denied => exact { sound with }

/-- Every roster that comes about by edits is sound. -/
theorem sound_applyAll (edits : List RosterEdit) :
    (RosterEdit.applyAll {} edits).Sound := by
  suffices ∀ roster : Roster,
    roster.Sound → (RosterEdit.applyAll roster edits).Sound from
    this {} sound_empty
  induction edits with
  | nil => exact fun _ sound => sound
  | cons edit rest inductionHypothesis =>
      exact fun roster sound =>
        inductionHypothesis (edit.apply roster) (sound.apply edit)

/-- A roster of one group, one user and the edge between them. -/
def sample : List RosterEdit :=
  [.putGroup ⟨"Staff", some "All of us", [], []⟩,
    .putUser ⟨"Ada", some "Ada Lovelace", none, none, none, true, []⟩,
    .addEdge ⟨"STAFF", .user, "ada"⟩]

/-! ## What a roster lists -/

/-- The groups as they are handed out, in the order of their folded ids. -/
def groups (roster : Roster) : List Group :=
  roster.groupRecords.toList.map roster.completeGroup

/-- The users as they are handed out, in the order of their folded ids. -/
def users (roster : Roster) : List User :=
  roster.userRecords.toList.map roster.completeUser

theorem groupPage_eq (roster : Roster) (start length : Nat) :
    roster.groupPage start length = (roster.groups.drop start).take length := by
  rw [groupPage, Register.page_eq_take_drop, List.map_take, List.map_drop]
  rfl

theorem userPage_eq (roster : Roster) (start length : Nat) :
    roster.userPage start length = (roster.users.drop start).take length := by
  rw [userPage, Register.page_eq_take_drop, List.map_take, List.map_drop]
  rfl

theorem Sound.pairwise_groups {roster : Roster} (sound : roster.Sound) :
    roster.groups.Pairwise fun left right => fold left.id < fold right.id :=
  List.pairwise_map.mpr (sound.sorted_groups.pairwise_toList sound.keys_groups)

theorem Sound.pairwise_users {roster : Roster} (sound : roster.Sound) :
    roster.users.Pairwise fun left right => fold left.id < fold right.id :=
  List.pairwise_map.mpr (sound.sorted_users.pairwise_toList sound.keys_users)

theorem Sound.isSome_group?_iff {roster : Roster} (sound : roster.Sound)
    {id : String} :
    (roster.group? id).isSome = true ↔ ∃ group ∈ roster.groups,
        fold group.id = fold id := by
  rw [group?, Option.isSome_map,
    sound.sorted_groups.isSome_get?_iff sound.keys_groups]
  simp [groups, completeGroup]

theorem Sound.isSome_user?_iff {roster : Roster} (sound : roster.Sound)
    {id : String} :
    (roster.user? id).isSome = true ↔ ∃ user ∈ roster.users,
        fold user.id = fold id := by
  rw [user?, Option.isSome_map,
    sound.sorted_users.isSome_get?_iff sound.keys_users]
  simp [users, completeUser]

theorem perm_sortedEdges (roster : Roster) :
    roster.sortedEdges.Perm roster.edges := by
  unfold sortedEdges
  refine ((List.mergeSort_perm _ _).map _).trans ?_
  rw [List.map_map]
  exact List.Perm.of_eq (List.map_id roster.edges)

theorem Sound.distinct_sortedEdges {roster : Roster} (sound : roster.Sound) :
    (roster.sortedEdges.map Membership.identity).Nodup :=
  (roster.perm_sortedEdges.map _).nodup_iff.mpr sound.distinct_edges

/-- Whether a member has a record. -/
def knows (roster : Roster) (kind : MemberKind) (id : String) : Bool :=
  match kind with
  | .group => (roster.group? id).isSome
  | .user => (roster.user? id).isSome

/-- Whether both ends of an edge have records. -/
def connects (roster : Roster) (edge : Membership) : Bool :=
  (roster.group? edge.groupId).isSome &&
    match edge.memberKind with
    | .group => (roster.group? edge.memberId).isSome
    | .user => (roster.user? edge.memberId).isSome

/-! ## What a roster answers -/

theorem run_ask_authorized {α : Type} (find : Roster → α) (roster : Roster) :
    (Authority.ask (authorized find)).run roster =
      (if roster.isDenied then .error denial else .ok (find roster),
          roster) := by
  cases denied : roster.isDenied <;>
    simp [Authority.ask, Action.repeated, RetryPolicy.run,
      RetryPolicy.runWithin, RetryPolicy.attempts?, RetryPolicy.query,
      RetryPolicy.mayMend, authorized, Action.observe, denied, denial,
      DirectoryError.isRetryable]

/-- A question to a roster is answered at once, or refused at once, and changes
nothing. -/
theorem run_ask {α : Type} (find : Roster → α) (session : Session Roster) :
    (Session.ask (authorized find)).run session =
      (if session.authority.isDenied then .error denial else
        .ok (find session.authority),
        session) := by
  unfold Session.ask Action.onPart
  simp only [run_ask_authorized]

end Roster

end CachedDirectory
