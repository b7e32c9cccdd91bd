import CachedDirectory.Proofs.LiveWalks
import Mathlib.Logic.Relation

/-!
# Closures of live walks

The edges of a roster form a graph in which only groups with records can be
entered, whatever its shape and however the ids are spelled. A live walk from a
member with a record ends, after at most two rounds for each edge, with the
groups that can be reached in the graph by one edge or more; each is named once,
as its record spells it, in the order of the folded ids.
-/

namespace CachedDirectory

open Relation Text

namespace Roster

variable {roster : Roster} {kind : MemberKind} {key above : String}

/-- Whether an edge leads from a member to a group with a record; members and
groups are given by their kinds and their folded ids. -/
def Leads (roster : Roster) (below above : MemberKind × String) : Prop :=
  ∃ edge ∈ roster.edges, (edge.memberKind, fold edge.memberId) = below ∧
    (MemberKind.group, fold edge.groupId) = above ∧
      (roster.group? edge.groupId).isSome = true

/-- What edges lead to are groups. -/
theorem Leads.isGroup {below above : MemberKind × String}
    (leads : roster.Leads below above) :
    above.1 = .group := by
  obtain ⟨_, _, _, rfl, _⟩ := leads
  rfl

/-- The folded ids to which edges lead from a member, through groups with
records, are the ends of its paths. -/
theorem ancestor_iff_transGen :
    roster.Ancestor kind key above ↔
        TransGen roster.Leads (kind, key) (.group, above) := by
  constructor
  · intro ancestor
    induction ancestor with
    | direct listed member known =>
        obtain ⟨sameKind, sameKey⟩ := hasMember_iff.mp member
        exact .single ⟨_, listed, Prod.ext sameKind sameKey, rfl, known⟩
    | through listed group below known inductionHypothesis =>
        exact .tail inductionHypothesis
          ⟨_, listed, Prod.ext group rfl, rfl, known⟩
  · intro path
    apply reached_of_path path Leads.isGroup
    · rintro _ ⟨edge, listed, member, entered, known⟩
      cases entered
      obtain ⟨sameKind, sameKey⟩ := Prod.mk.inj member
      exact .direct listed (hasMember_iff.mpr ⟨sameKind, sameKey⟩) known
    · rintro _ _ below ⟨edge, listed, member, entered, known⟩
      cases entered
      obtain ⟨group, rfl⟩ := Prod.mk.inj member
      exact .through listed group below known

end Roster

namespace Live

/-- A walk that has ended is not changed by further rounds. -/
theorem Walk.run_of_le {α : Type} [Authority α] (live : Live)
    {rounds more : Nat} {walk : Walk} {authority after : α}
    {answer : Answer (List String)}
    (ended : Walk.run live rounds walk authority = (some answer, after))
    (le : rounds ≤ more) :
    Walk.run live more walk authority = (some answer, after) := by
  induction rounds generalizing more walk authority with
  | zero =>
      rcases walk with ⟨_ | ⟨id, pending⟩, seen, found⟩
      · rw [← ended, Walk.run, Walk.run]
      · cases ended
  | succ rounds inductionHypothesis =>
      obtain ⟨further, rfl⟩ := Nat.exists_eq_add_of_lt le
      have less : rounds ≤ rounds + further := Nat.le_add_right rounds further
      rcases walk with ⟨_ | ⟨id, pending⟩, seen, found⟩
      · rw [← ended, Walk.run, Walk.run]
      · rw [Walk.run] at ended ⊢
        split
        · rename_i visited
          rw [if_pos visited] at ended
          exact inductionHypothesis ended less
        · rename_i unseen
          rw [if_neg unseen] at ended
          rcases fetched : (live.fetch .group id).run authority with
              ⟨_ | _ | group, asked⟩
          · rw [fetched] at ended
            exact ended
          · rw [fetched] at ended
            exact inductionHypothesis ended less
          · rw [fetched] at ended
            exact inductionHypothesis ended less

variable {roster : Roster}

/-- A walk from the groups that a member is directly in finds, in two rounds for
each edge, all groups that can be reached. -/
theorem exists_walk (live : Live) (sound : roster.Sound)
    (granted : roster.isDenied = false) (kind : MemberKind) (id : String) :
    ∃ found,
      (∀ rounds, 2 * roster.edges.length ≤ rounds →
        Walk.run live rounds ⟨roster.parents kind id, [], []⟩ roster =
          (some (.ok found), roster)) ∧
      IsRoll
        (fun name => ∃ group ∈ roster.groups, group.id = name ∧
          TransGen roster.Leads (kind, fold id) (.group, fold name))
        (inOrder fold found) := by
  obtain ⟨seen, found, ran, explores⟩ :=
    (Walk.explores_parents roster kind id).run live sound granted
      (Walk.remaining_parents_le roster kind id)
  have roll := explores.isRoll sound
  refine ⟨found,
    fun rounds le => Walk.run_of_le live ran le, roll.ordered, fun name => ?_⟩
  simp only [roll.mem_iff, Roster.ancestor_iff_transGen]

/-- Whatever the edges of a roster are, the walk for a member with a record
ends, after at most two rounds for each of them. The answer names the groups
with records that can be reached from the member by one edge or more, through
groups with records only, each once and in the order of the folded ids. -/
theorem walk_ends_with_closure (live : Live) {edits : List RosterEdit}
    (edited : RosterEdit.applyAll {} edits = roster)
    (granted : roster.isDenied = false) {kind : MemberKind} {id : String}
    (known : roster.knows kind id = true) :
    ∃ found,
      (∀ rounds, 2 * roster.edges.length ≤ rounds →
        Walk.run live rounds ⟨roster.parents kind id, [], []⟩ roster =
          (some (.ok found), roster)) ∧
      live.effectiveGroups kind id roster =
        (some (.ok (inOrder fold found)), roster) ∧
      IsRoll
        (fun name => ∃ group ∈ roster.groups, group.id = name ∧
          TransGen roster.Leads (kind, fold id) (.group, fold name))
        (inOrder fold found) := by
  have sound : roster.Sound := edited ▸ Roster.sound_applyAll edits
  obtain ⟨found, ended, roll⟩ := exists_walk live sound granted kind id
  refine ⟨found, ended, ?_, roll⟩
  rcases run_require live sound granted kind id with
      ⟨missing, _⟩ | ⟨_, member, handedOut, direct⟩
  · exact absurd (known.symm.trans missing) (by decide)
  · unfold effectiveGroups
    rw [handedOut]
    dsimp only
    rw [direct, ended _ (length_edges_le_rounds roster)]
    rfl

/-- A roster with two groups that are members of each other, and with a group
that only edges from a group without a record lead to. -/
def tangledRoster : Roster :=
  RosterEdit.applyAll {}
    [.putGroup ⟨"Staff", none, [], []⟩, .putGroup ⟨"Everyone", none, [], []⟩,
      .putGroup ⟨"Hidden", none, [], []⟩,
        .putUser ⟨"Ada", none, none, none, none, true, []⟩,
      .addEdge ⟨"STAFF", .user, "ada"⟩, .addEdge ⟨"everyone", .group, "sTaff"⟩,
      .addEdge ⟨"Staff", .group, "EVERYONE"⟩,
        .addEdge ⟨"staff", .group, "Staff"⟩,
      .addEdge ⟨"Ghost", .user, "ADA"⟩, .addEdge ⟨"Hidden", .group, "ghost"⟩]

/-- The groups of Ada are those that lead to each other; what lies behind the
group without a record is not among them. -/
theorem walk_ends_with_closure_tangled :
    ∃ groups,
      effectiveGroups ⟨.ofSettings {}, .standard⟩ .user "aDA" tangledRoster =
          (some (.ok groups), tangledRoster) ∧
        "Staff" ∈ groups ∧ "Everyone" ∈ groups ∧ "Hidden" ∉ groups := by
  have granted : tangledRoster.isDenied = false := by decide +kernel
  have known : tangledRoster.knows .user "aDA" = true := by decide +kernel
  have named :
      ∀ name ∈ ["Staff", "Everyone"],
          ∃ group ∈ tangledRoster.groups, group.id = name := by
    decide +kernel
  have ofUser :
      tangledRoster.Leads (.user, fold "aDA") (.group, fold "Staff") :=
    ⟨⟨"STAFF", .user, "ada"⟩, by decide +kernel⟩
  have upward :
      tangledRoster.Leads (.group, fold "Staff") (.group, fold "Everyone") :=
    ⟨⟨"everyone", .group, "sTaff"⟩, by decide +kernel⟩
  have fromAda :
      ∀ edge ∈ tangledRoster.edges,
        (tangledRoster.group? edge.groupId).isSome = true →
        (edge.memberKind, fold edge.memberId) = (.user, fold "aDA") →
          fold edge.groupId ∈ ["staff", "everyone"] := by
    decide +kernel
  have fromGroups : ∀ edge ∈ tangledRoster.edges,
      (tangledRoster.group? edge.groupId).isSome = true →
        edge.memberKind = .group →
        fold edge.memberId ∈ ["staff", "everyone"] →
          fold edge.groupId ∈ ["staff", "everyone"] := by
    decide +kernel
  have inside :
      ∀ place, TransGen tangledRoster.Leads (.user, fold "aDA") place →
        place.2 ∈ ["staff", "everyone"] := by
    intro place path
    induction path with
    | single leads =>
        obtain ⟨edge, listed, member, rfl, recorded⟩ := leads
        exact fromAda edge listed recorded member
    | tail before leads inductionHypothesis =>
        obtain ⟨edge, listed, rfl, rfl, recorded⟩ := leads
        exact fromGroups edge listed recorded
          (kind_of_path before Roster.Leads.isGroup) inductionHypothesis
  obtain ⟨found, _, answered, roll⟩ :=
    walk_ends_with_closure ⟨.ofSettings {}, .standard⟩ (Eq.refl tangledRoster)
      granted known
  refine ⟨_, answered, ?_, ?_, ?_⟩
  · obtain ⟨group, listed, same⟩ := named "Staff" (by decide)
    exact (roll.mem_iff "Staff").mpr ⟨group, listed, same, .single ofUser⟩
  · obtain ⟨group, listed, same⟩ := named "Everyone" (by decide)
    exact (roll.mem_iff "Everyone").mpr
      ⟨group, listed, same, .tail (.single ofUser) upward⟩
  · intro listed
    obtain ⟨_, _, _, path⟩ := (roll.mem_iff "Hidden").mp listed
    exact absurd (inside _ path) (by decide +kernel)

end Live

end CachedDirectory
