import CachedDirectory.Proofs.KeyOrder
import CachedDirectory.Replica.Reading
import Mathlib.Logic.Relation

/-!
# Groups of groups

The groups that a member belongs to, directly or through groups, are found in
rounds. Each round but the last reaches the group of an edge that was not
reached before, so as many rounds as there are edges are enough, whatever cycles
the edges form: in the end exactly the groups are found to which edges lead from
the member, one after the other.
-/

namespace CachedDirectory

open Relation Text

/-! ## Paths that enter places of one kind only -/

section Paths

variable {κ α : Type} {leads : κ × α → κ × α → Prop} {group : κ}
  {start below above : κ × α}

/-- A path ends at a place of the kind that every edge enters. -/
theorem kind_of_path (path : TransGen leads below above)
    (enters : ∀ {below above}, leads below above → above.1 = group) :
    above.1 = group := by
  cases path with
  | single edge => exact enters edge
  | tail _ edge => exact enters edge

/-- What holds of the first places and goes on along edges holds where paths
end. -/
theorem reached_of_path {reached : α → Prop}
    (path : TransGen leads start above)
    (enters : ∀ {below above}, leads below above → above.1 = group)
    (direct : ∀ {key}, leads start (group, key) → reached key)
    (through : ∀ {key next}, reached key →
      leads (group, key) (group, next) → reached next) : reached above.2 := by
  have goesOn {place : κ × α} (kind : place.1 = group) :
      place = (group, place.2) :=
    Prod.ext kind rfl
  induction path with
  | single edge =>
      rw [goesOn (enters edge)] at edge
      exact direct edge
  | tail before edge inductionHypothesis =>
      rw [goesOn (kind_of_path before enters), goesOn (enters edge)] at edge
      exact through inductionHypothesis edge

end Paths

/-! ## Groups above a member -/

/-- Whether ids are those with a property, each once and in the order of the
folded ids. -/
structure IsRoll (property : String → Prop) (ids : List String) : Prop where
  ordered : ids.Pairwise fun left right => fold left < fold right
  mem_iff : ∀ id, id ∈ ids ↔ property id

theorem IsRoll.nodup {property : String → Prop} {ids : List String}
    (roll : IsRoll property ids) :
    ids.Nodup := by
  refine roll.ordered.imp fun before same => ?_
  rw [same] at before
  exact String.lt_irrefl _ before

/-- A property leaves no choice of its roll. -/
theorem IsRoll.eq {property same : String → Prop} {ids others : List String}
    (roll : IsRoll property ids) (other : IsRoll same others)
    (iff : ∀ id, property id ↔ same id) : ids = others := by
  have perm : ids.Perm others := by
    rw [List.perm_ext_iff_of_nodup roll.nodup other.nodup]
    exact fun id =>
      (roll.mem_iff id).trans ((iff id).trans (other.mem_iff id).symm)
  refine perm.eq_of_pairwise ?_ roll.ordered other.ordered
  intro left right _ _ before after
  exact absurd (String.lt_trans before after) (String.lt_irrefl _)

namespace Tables

variable {tables : Tables}

/-- The keys of the groups to which edges lead from a member, through any number
of groups. -/
inductive Ancestor (tables : Tables) (memberKind memberKey : SqlValue) :
    SqlValue → Prop
  | direct {edge : EdgeRow} (stored : edge ∈ tables.edges)
      (member : edge.memberPlace = (memberKind, memberKey)) :
      Ancestor tables memberKind memberKey edge.groupKey
  | through {edge : EdgeRow} (stored : edge ∈ tables.edges)
      (kind : edge.memberKind = .text EntityKind.group.name)
      (below : Ancestor tables memberKind memberKey edge.memberKey) :
      Ancestor tables memberKind memberKey edge.groupKey

theorem Ancestor.exists_text
    (keyed : ∀ edge ∈ tables.edges, ∃ name, edge.groupKey = .text name)
    {memberKind memberKey key : SqlValue}
    (ancestor : tables.Ancestor memberKind memberKey key) :
    ∃ name, key = .text name := by
  cases ancestor with
  | direct stored member => exact keyed _ stored
  | through stored kind below => exact keyed _ stored

/-- Whether an edge leads from one of the known keys to a group. -/
def leadsOn (known : List SqlValue) (edge : EdgeRow) : Bool :=
  (edge.memberKind.equals (.text EntityKind.group.name)).isYes &&
    known.any fun key => (edge.memberKey.equals key).isYes

/-- The edges whose groups are not known. -/
def unreached (tables : Tables) (known : List SqlValue) : List EdgeRow :=
  tables.edges.filter fun edge => !known.contains edge.groupKey

/-- Whether no edge leads from the known keys to a key that is not known. -/
def IsClosed (tables : Tables) (known : List SqlValue) : Prop :=
  ∀ edge ∈ tables.edges, leadsOn known edge = true → edge.groupKey ∈ known

theorem leadsOn_iff {known : List SqlValue}
    (texts : ∀ key ∈ known, ∃ name, key = .text name) {edge : EdgeRow} :
    leadsOn known edge = true ↔
      edge.memberKind = .text EntityKind.group.name ∧
          edge.memberKey ∈ known := by
  rw [leadsOn, Bool.and_eq_true, SqlValue.isYes_equals_text, decide_eq_true_iff,
    List.any_eq_true]
  refine and_congr_right fun _ => ⟨?_, ?_⟩
  · rintro ⟨key, member, same⟩
    obtain ⟨name, rfl⟩ := texts key member
    rw [SqlValue.isYes_equals_text, decide_eq_true_iff] at same
    rw [same]
    exact member
  · intro member
    obtain ⟨name, cell⟩ := texts _ member
    refine ⟨edge.memberKey, member, ?_⟩
    rw [cell, SqlValue.isYes_equals_text, decide_eq_true_iff]

/-! ## One round -/

/-- Collecting groups of edges appends those that are not there yet. -/
theorem exists_collected (selects : EdgeRow → Bool) (edges : List EdgeRow)
    (found : List SqlValue) :
    ∃ fresh,
      edges.foldl (fun found edge =>
          if selects edge &&
            !found.contains edge.groupKey then found ++ [edge.groupKey]
          else found) found = found ++ fresh ∧
        ∀ key, key ∈ fresh ↔
          key ∉ found ∧ ∃ edge ∈ edges,
              selects edge = true ∧ edge.groupKey = key := by
  induction edges generalizing found with
  | nil => exact ⟨[], by simp, by simp⟩
  | cons edge rest inductionHypothesis =>
      rw [List.foldl_cons]
      by_cases taken : (selects edge && !found.contains edge.groupKey) = true
      · rw [if_pos taken]
        obtain ⟨fresh, collected, members⟩ :=
          inductionHypothesis (found ++ [edge.groupKey])
        refine ⟨edge.groupKey ::
          fresh, by rw [collected, List.append_assoc]; rfl, fun key => ?_⟩
        have selected : selects edge = true ∧ edge.groupKey ∉ found := by
          simpa using taken
        rw [List.mem_cons, members]
        by_cases same : key = edge.groupKey
        · subst same
          simp [selected]
        · have different : edge.groupKey ≠ key := Ne.symm same
          simp [same, different]
      · rw [if_neg taken]
        obtain ⟨fresh, collected, members⟩ := inductionHypothesis found
        refine ⟨fresh, collected, fun key => ?_⟩
        rw [members]
        refine and_congr_right fun unknown => ?_
        have skipped : selects edge = true → edge.groupKey ∈ found := by
          simpa using taken
        constructor
        · rintro ⟨other, member, selected, same⟩
          exact ⟨other, List.mem_cons_of_mem edge member, selected, same⟩
        · rintro ⟨other, member, selected, same⟩
          rcases List.mem_cons.mp member with rfl | later
          · exact absurd (same ▸ skipped selected) unknown
          · exact ⟨other, later, selected, same⟩

/-- A round appends the groups to which edges lead from the known keys, unless
they are known. -/
theorem exists_widen_eq (tables : Tables) (known : List SqlValue) :
    ∃ fresh, tables.widen known = known ++ fresh ∧
      ∀ key, key ∈ fresh ↔
        key ∉ known ∧ ∃ edge ∈ tables.edges,
            leadsOn known edge = true ∧ edge.groupKey = key :=
  exists_collected (leadsOn known) tables.edges known

theorem subset_widen (tables : Tables) (known : List SqlValue) :
    known ⊆ tables.widen known := by
  obtain ⟨fresh, widened, _⟩ := tables.exists_widen_eq known
  rw [widened]
  exact List.subset_append_left known fresh

theorem widen_eq_of_isClosed {known : List SqlValue}
    (closed : tables.IsClosed known) :
    tables.widen known = known := by
  obtain ⟨fresh, widened, members⟩ := tables.exists_widen_eq known
  have nothing : fresh = [] := by
    apply List.eq_nil_iff_forall_not_mem.mpr
    intro key listed
    obtain ⟨unknown, edge, stored, leads, rfl⟩ := (members key).mp listed
    exact unknown (closed edge stored leads)
  rw [widened, nothing, List.append_nil]

theorem isClosed_of_length_widen {known : List SqlValue}
    (same : (tables.widen known).length = known.length) :
    tables.IsClosed known := by
  obtain ⟨fresh, widened, members⟩ := tables.exists_widen_eq known
  have nothing : fresh = [] := by
    rw [widened, List.length_append] at same
    exact List.eq_nil_of_length_eq_zero (by omega)
  subst nothing
  intro edge stored leads
  by_contra unknown
  exact List.not_mem_nil
    ((members edge.groupKey).mpr ⟨unknown, edge, stored, leads, rfl⟩)

/-- A round that finds something leaves fewer edges whose groups are not
known. -/
theorem length_unreached_widen_lt {known : List SqlValue}
    (longer : (tables.widen known).length ≠ known.length) :
    (tables.unreached (tables.widen known)).length <
        (tables.unreached known).length := by
  obtain ⟨fresh, widened, members⟩ := tables.exists_widen_eq known
  obtain ⟨key, listed⟩ : ∃ key, key ∈ fresh := by
    apply List.exists_mem_of_ne_nil
    rintro rfl
    exact longer (by rw [widened, List.append_nil])
  obtain ⟨unknown, edge, stored, _, rfl⟩ := (members key).mp listed
  have known' : edge.groupKey ∈ tables.widen known := by
    rw [widened]
    exact List.mem_append_right known listed
  have smaller : tables.unreached (tables.widen known) =
      (tables.unreached known).filter fun edge =>
          !(tables.widen known).contains edge.groupKey := by
    rw [unreached, unreached, List.filter_filter]
    apply List.filter_congr
    intro other _
    have kept := tables.subset_widen known (a := other.groupKey)
    by_cases there : other.groupKey ∈ known
    · simp [there, kept there]
    · simp [there]
  rw [smaller]
  refine List.length_filter_lt_length_iff_exists.mpr
    ⟨edge, ?_, by simp [known']⟩
  exact List.mem_filter.mpr ⟨stored, by simp [unknown]⟩

/-! ## All rounds -/

theorem subset_saturate (tables : Tables) (rounds : Nat)
    (known : List SqlValue) :
    known ⊆ tables.saturate rounds known := by
  induction rounds generalizing known with
  | zero => exact fun _ member => member
  | succ rounds inductionHypothesis =>
      dsimp only [saturate]
      split
      · exact fun _ member => member
      · exact List.Subset.trans (tables.subset_widen known)
          (inductionHypothesis _)

/-- A property of keys that edges between groups hand on holds of all keys in
the end. -/
theorem saturate_induction {property : SqlValue → Prop} {rounds : Nat}
    {known : List SqlValue} (start : ∀ key ∈ known, property key)
    (texts : ∀ key, property key → ∃ name, key = .text name)
    (handedOn :
      ∀ edge ∈ tables.edges,
        edge.memberKind = .text EntityKind.group.name →
          property edge.memberKey → property edge.groupKey) :
    ∀ key ∈ tables.saturate rounds known, property key := by
  induction rounds generalizing known with
  | zero => exact start
  | succ rounds inductionHypothesis =>
      dsimp only [saturate]
      split
      · exact start
      · apply inductionHypothesis
        intro key listed
        obtain ⟨fresh, widened, members⟩ := tables.exists_widen_eq known
        rw [widened] at listed
        rcases List.mem_append.mp listed with earlier | later
        · exact start key earlier
        · obtain ⟨_, edge, stored, leads, rfl⟩ := (members key).mp later
          have keyed : ∀ key ∈ known, ∃ name, key = .text name :=
            fun key member => texts key (start key member)
          obtain ⟨kind, member⟩ := (leadsOn_iff keyed).mp leads
          exact handedOn edge stored kind (start _ member)

/-- A round that finds something uses up one of the rounds and an edge to be
reached. -/
theorem enough_widen {rounds : Nat} {known : List SqlValue}
    (longer : (tables.widen known).length ≠ known.length)
    (enough :
      tables.IsClosed known ∨ (tables.unreached known).length < rounds + 1) :
    tables.IsClosed (tables.widen known) ∨
      (tables.unreached (tables.widen known)).length < rounds := by
  rcases enough with closed | fewer
  · exact absurd (congrArg List.length (widen_eq_of_isClosed closed)) longer
  · have less := length_unreached_widen_lt longer
    exact Or.inr (by omega)

/-- As many rounds as there are edges to be reached lead to a closed list of
keys. -/
theorem isClosed_saturate {rounds : Nat} {known : List SqlValue}
    (enough :
      tables.IsClosed known ∨ (tables.unreached known).length < rounds) :
    tables.IsClosed (tables.saturate rounds known) := by
  induction rounds generalizing known with
  | zero => exact enough.resolve_right (Nat.not_lt_zero _)
  | succ rounds inductionHypothesis =>
      dsimp only [saturate]
      split
      · rename_i same
        exact isClosed_of_length_widen same
      · rename_i longer
        exact inductionHypothesis (enough_widen longer enough)

/-- No round changes a closed list of keys. -/
theorem saturate_of_isClosed {known : List SqlValue}
    (closed : tables.IsClosed known) (rounds : Nat) :
    tables.saturate rounds known = known := by
  cases rounds with
  | zero => rfl
  | succ rounds =>
      dsimp only [saturate]
      rw [if_pos (congrArg List.length (widen_eq_of_isClosed closed))]

/-- More rounds than are enough find nothing more. -/
theorem saturate_eq_of_le {rounds more : Nat} {known : List SqlValue}
    (enough : tables.IsClosed known ∨ (tables.unreached known).length < rounds)
    (le : rounds ≤ more) :
    tables.saturate more known = tables.saturate rounds known := by
  induction rounds generalizing known more with
  | zero =>
      exact saturate_of_isClosed (enough.resolve_right (Nat.not_lt_zero _)) more
  | succ rounds inductionHypothesis =>
      obtain ⟨further, rfl⟩ := Nat.exists_eq_add_of_lt le
      dsimp only [saturate]
      split
      · rfl
      · rename_i longer
        exact inductionHypothesis (enough_widen longer enough)
          (Nat.le_add_right rounds further)

theorem mem_directGroups_iff {memberKind memberKey : String} {key : SqlValue} :
    key ∈ tables.directGroups (.text memberKind) (.text memberKey) ↔
      ∃ edge ∈ tables.edges,
        edge.memberPlace = (.text memberKind, .text memberKey) ∧
        edge.groupKey = key := by
  simp [directGroups, hasMember, EdgeRow.memberPlace, and_assoc]

/-- The member has no groups, or one of its groups is that of an edge. -/
theorem directGroups_reach (tables : Tables) (memberKind memberKey : String) :
    tables.IsClosed (tables.directGroups (.text memberKind) (.text memberKey)) ∨
      (tables.unreached
        (tables.directGroups (.text memberKind) (.text memberKey))).length <
        tables.edges.length := by
  rcases List.eq_nil_or_concat
    (tables.directGroups (.text memberKind) (.text memberKey)) with
    nothing | ⟨_, last, listed⟩
  · left
    intro edge _ leads
    simp [nothing, leadsOn] at leads
  · right
    have member :
        last ∈ tables.directGroups (.text memberKind) (.text memberKey) := by
      rw [listed]
      simp
    obtain ⟨edge, stored, _, rfl⟩ := mem_directGroups_iff.mp member
    exact List.length_filter_lt_length_iff_exists.mpr
      ⟨edge, stored, by simp [member]⟩

/-- The keys that are found are those to which edges lead from the member. -/
theorem mem_ancestry_iff
    (keyed : ∀ edge ∈ tables.edges, ∃ name, edge.groupKey = .text name)
    {memberKind memberKey : String} {key : SqlValue} :
    key ∈ tables.ancestry (.text memberKind) (.text memberKey) ↔
      tables.Ancestor (.text memberKind) (.text memberKey) key := by
  have texts : ∀ key, tables.Ancestor (.text memberKind) (.text memberKey) key →
      ∃ name, key = .text name := fun _ ancestor => ancestor.exists_text keyed
  have sound : ∀ key ∈ tables.ancestry (.text memberKind) (.text memberKey),
      tables.Ancestor (.text memberKind) (.text memberKey) key := by
    apply saturate_induction _ texts
    · exact fun edge stored kind below => .through stored kind below
    · intro key listed
      obtain ⟨edge, stored, member, rfl⟩ := mem_directGroups_iff.mp listed
      exact .direct stored member
  refine ⟨sound key, fun ancestor => ?_⟩
  induction ancestor with
  | direct stored member =>
      exact tables.subset_saturate _ _
        (mem_directGroups_iff.mpr ⟨_, stored, member, rfl⟩)
  | through stored kind below inductionHypothesis =>
      have closed :=
        isClosed_saturate (tables.directGroups_reach memberKind memberKey)
      have known := fun key listed => texts key (sound key listed)
      exact closed _ stored
        ((leadsOn_iff known).mpr ⟨kind, inductionHypothesis⟩)

/-! ## The groups that are found -/

theorem Sound.exists_groupKey (sound : tables.Sound) {edge : EdgeRow}
    (stored : edge ∈ tables.edges) : ∃ name, edge.groupKey = .text name := by
  obtain ⟨row, member, place⟩ := List.mem_map.mp (sound.ends edge stored).1
  obtain ⟨id, _, key⟩ := (sound.isRecord row member).exists_id
  exact ⟨fold id, (Prod.mk.inj place).2.symm.trans key⟩

variable {memberKind memberKey : String}

theorem Sound.mem_effectiveGroupRows_iff (sound : tables.Sound)
    {row : EntityRow} :
    row ∈ tables.effectiveGroupRows (.text memberKind) (.text memberKey) ↔
      row ∈ tables.entities ∧ row.kind = .text EntityKind.group.name ∧
        tables.Ancestor (.text memberKind) (.text memberKey) row.key := by
  have keyed :=
    fun edge (stored : edge ∈ tables.edges) => sound.exists_groupKey stored
  have found : (tables.ancestry (.text memberKind) (.text memberKey)).any
        (fun key => (row.key.equals key).isYes) = true ↔
      tables.Ancestor (.text memberKind) (.text memberKey) row.key := by
    rw [List.any_eq_true, ← mem_ancestry_iff keyed]
    constructor
    · rintro ⟨key, listed, same⟩
      obtain ⟨name, rfl⟩ :=
        ((mem_ancestry_iff keyed).mp listed).exists_text keyed
      rw [SqlValue.isYes_equals_text, decide_eq_true_iff] at same
      exact same ▸ listed
    · intro listed
      obtain ⟨name, text⟩ :=
        ((mem_ancestry_iff keyed).mp listed).exists_text keyed
      refine ⟨row.key, listed, ?_⟩
      rw [text, SqlValue.isYes_equals_text, decide_eq_true_iff]
  rw [effectiveGroupRows, (List.mergeSort_perm _ _).mem_iff, List.mem_filter,
    Bool.and_eq_true, EntityRow.isGroup, SqlValue.isYes_equals_text,
    decide_eq_true_iff, found]

theorem Sound.pairwise_effectiveGroupRows (sound : tables.Sound) :
    (tables.effectiveGroupRows (.text memberKind) (.text memberKey)).Pairwise
        KeyBefore := by
  apply sound.pairwise_mergeSort List.filter_sublist
  intro row member
  have group := (Bool.and_eq_true_iff.mp (List.mem_filter.mp member).2).1
  rw [EntityRow.isGroup, SqlValue.isYes_equals_text,
    decide_eq_true_iff] at group
  exact group

/-- The ids that are answered are those of the stored groups to which edges lead
from the member. -/
theorem Sound.isRoll_effectiveGroups (sound : tables.Sound) :
    IsRoll
      (fun id =>
        ∃ row ∈ tables.entities, row.kind = .text EntityKind.group.name ∧
        row.id = .text id ∧
          tables.Ancestor (.text memberKind) (.text memberKey) row.key)
      ((tables.effectiveGroupRows (.text memberKind)
        (.text memberKey)).filterMap
        fun row => row.id.received.text?) where
  ordered := by
    rw [List.pairwise_filterMap]
    refine List.Pairwise.imp_of_mem ?_ sound.pairwise_effectiveGroupRows
    rintro left right leftMember rightMember ⟨_, _, leftKey, rightKey, before⟩
      leftId leftText
      rightId rightText
    have keyOf : ∀ row id,
        row ∈ tables.effectiveGroupRows (.text memberKind) (.text memberKey) →
          row.id.received.text? = some id → row.key = .text (fold id) := by
      intro row id member text
      obtain ⟨name, cell, key⟩ :=
        (sound.isRecord row
          (sound.mem_effectiveGroupRows_iff.mp member).1).exists_id
      rw [cell] at text
      cases text
      exact key
    cases leftKey.symm.trans (keyOf left leftId leftMember leftText)
    cases rightKey.symm.trans (keyOf right rightId rightMember rightText)
    exact before
  mem_iff id := by
    rw [List.mem_filterMap]
    constructor
    · rintro ⟨row, member, text⟩
      obtain ⟨stored, group, ancestor⟩ :=
        sound.mem_effectiveGroupRows_iff.mp member
      obtain ⟨name, cell, _⟩ := (sound.isRecord row stored).exists_id
      rw [cell] at text
      cases text
      exact ⟨row, stored, group, cell, ancestor⟩
    · rintro ⟨row, stored, group, cell, ancestor⟩
      refine ⟨row,
        sound.mem_effectiveGroupRows_iff.mpr ⟨stored, group, ancestor⟩, ?_⟩
      rw [cell]
      rfl

end Tables

end CachedDirectory
