import CachedDirectory.Proofs.SearchStatements
import CachedDirectory.Proofs.WrittenMeanings

/-!
# Filters that need no fallback

The evaluation of a filter cannot fail, so where a leaf cannot be compared it
falls back on no match, and where a fragment has no text it looks for the
fragment as it is written. Under a negation such a fallback would become a
match. Here the evaluation is told once more, with a handler in the place of
every fallback, which acts in any monad. A filter that passes its check never
comes to its handler, and neither does any node in it, also where another part
decides the result.
-/

namespace CachedDirectory

/-- What the evaluation of a filter falls back from. -/
inductive Fallback where
  /-- The attribute means no column. -/
  | unresolved (attr : String)
  /-- The value that is compared with has no stored form. -/
  | declined (column : Column) (value : String)
  /-- The stored form of the fragment, if there is one, is no text. -/
  | unconverted (column : Column) (fragment : String)
  /-- No entity can be compared in this way. -/
  | unsupported (leaf : Filter)

/-- What is done in the place of a fallback. -/
structure FallbackHandler (m : Type → Type) where
  /-- Answers for a leaf that cannot be compared. -/
  answer : Fallback → m Bool
  /-- Finds a text to look for in the place of a fragment. -/
  text : Column → String → m String

/-- The handler that falls back as the evaluation does, and records from
what. -/
def FallbackHandler.logged : FallbackHandler (StateM (List Fallback)) where
  answer fallback := do
    modify fun taken => taken ++ [fallback]
    return false
  text column fragment := do
    modify fun taken => taken ++ [.unconverted column fragment]
    return fragment

namespace Pattern

section Actions

variable {m : Type → Type} [Monad m]

/-- The pattern with every fragment changed by an action, from left to right. -/
def mapM (change : String → m String) (pattern : Pattern) : m Pattern := do
  let initial ← pattern.initial.mapM change
  let middle ← pattern.middle.mapM change
  let final ← pattern.final.mapM change
  return ⟨initial, middle, final⟩

variable [LawfulMonad m] {change : String → m String} {plain : String → String}

theorem edge_mapM_eq_pure_map {edge : Option String}
    (each : ∀ fragment ∈ edge.toList, change fragment = pure (plain fragment)) :
    edge.mapM change = pure (edge.map plain) := by
  cases edge with
  | none => rfl
  | some fragment =>
      rw [Option.mapM_some, each fragment (List.mem_singleton_self fragment),
        map_pure, Option.map_some]

theorem middle_mapM_eq_pure_map {middle : List String}
    (each : ∀ fragment ∈ middle, change fragment = pure (plain fragment)) :
    middle.mapM change = pure (middle.map plain) := by
  induction middle with
  | nil => rfl
  | cons fragment rest inductionHypothesis =>
      obtain ⟨here, later⟩ := List.forall_mem_cons.mp each
      rw [List.mapM_cons, here, pure_bind, inductionHypothesis later, pure_bind,
        List.map_cons]

/-- Where every action gives a text and does nothing else, so does the change of
the pattern. -/
theorem mapM_eq_pure_map {pattern : Pattern}
    (each :
      ∀ fragment ∈ pattern.fragments, change fragment = pure (plain fragment)) :
    pattern.mapM change = pure (pattern.map plain) := by
  simp only [fragments, List.forall_mem_append] at each
  obtain ⟨⟨initial, middle⟩, final⟩ := each
  rw [mapM, edge_mapM_eq_pure_map initial, pure_bind,
    middle_mapM_eq_pure_map middle, pure_bind, edge_mapM_eq_pure_map final,
    pure_bind, map]

end Actions

end Pattern

namespace Filter

section Handlers

variable {m : Type → Type} [Monad m] (handler : FallbackHandler m)
  (converter : Converter)
  (entity : Entity)

/-- Whether an entity has a value whose stored form is that of the given one. -/
def holdsEqualWith (column : Column) (value : String) : m Bool :=
  match converter.toStore column value with
  | some wanted => return (storedValues converter entity column).contains wanted
  | none => handler.answer (.declined column value)

/-- A fragment as it is looked for. -/
def storedFragmentWith (column : Column) (fragment : String) : m String :=
  match converter.toStore column fragment with
  | some (.text content) => return content
  | _ => handler.text column fragment

/-- Whether an entity has a value whose stored form is a text that the pattern
accepts. -/
def holdsPatternWith (column : Column) (pattern : Pattern) : m Bool := do
  let sought ← pattern.mapM (storedFragmentWith handler converter column)
  return (storedValues converter entity column).any fun stored =>
    match stored with
    | .text content => sought.accepts content
    | _ => false

mutual

/-- Whether an entity matches a filter, with a handler in the place of every
fallback. -/
def evaluateWith : Filter → m Bool
  | equals attr value =>
      match Column.ofAttribute? attr with
      | some column => holdsEqualWith handler converter entity column value
      | none => handler.answer (.unresolved attr)
  | substring attr pattern =>
      match Column.ofAttribute? attr with
      | some column => holdsPatternWith handler converter entity column pattern
      | none => handler.answer (.unresolved attr)
  | present attr =>
      match Column.ofAttribute? attr with
      | some column => return (entity.value? column).isSome
      | none => handler.answer (.unresolved attr)
  | and parts => evaluateAllWith parts
  | or parts => evaluateAnyWith parts
  | not part => do
      let matched ← evaluateWith part
      return !matched
  | greaterOrEqual attr value =>
      handler.answer (.unsupported (greaterOrEqual attr value))
  | lessOrEqual attr value =>
      handler.answer (.unsupported (lessOrEqual attr value))
  | approximate attr value =>
      handler.answer (.unsupported (approximate attr value))
  | extensible rule attr value =>
      handler.answer (.unsupported (extensible rule attr value))

/-- Whether an entity matches every filter of a list. Those after one that it
does not match are not visited. -/
def evaluateAllWith : List Filter → m Bool
  | [] => return true
  | part :: rest => do
      let matched ← evaluateWith part
      if matched then evaluateAllWith rest else return false

/-- Whether an entity matches some filter of a list. Those after one that it
matches are not visited. -/
def evaluateAnyWith : List Filter → m Bool
  | [] => return false
  | part :: rest => do
      let matched ← evaluateWith part
      if matched then return true else evaluateAnyWith rest

end

end Handlers

/-- Whether an entity matches a filter, and the fallbacks that the evaluation
takes, first one first. -/
def evaluateLogged (converter : Converter) (entity : Entity) (filter : Filter) :
    Bool × List Fallback :=
  (filter.evaluateWith .logged converter entity).run []

/-- Whether a filter is another one or stands in it, at any depth. -/
inductive IsNodeOf (node : Filter) : Filter → Prop
  | self : IsNodeOf node node
  | and {parts : List Filter} {part : Filter} (member : part ∈ parts)
      (within : IsNodeOf node part) : IsNodeOf node (and parts)
  | or {parts : List Filter} {part : Filter} (member : part ∈ parts)
      (within : IsNodeOf node part) : IsNodeOf node (or parts)
  | not {part : Filter} (within : IsNodeOf node part) : IsNodeOf node (not part)

variable {scope : EntityKind} {converter : Converter} {entity : Entity}
  {column : Column}

/-! ## What the check finds -/

theorem checkFragments_eq_ok_iff {fragments : List String} :
    checkFragments converter column fragments = .ok ⟨⟩ ↔
      ∀ fragment ∈ fragments, ∃ content,
        converter.toStore column fragment = some (.text content) := by
  induction fragments with
  | nil => simp [checkFragments]
  | cons fragment rest inductionHypothesis =>
      simp only [checkFragments, Answer.bind_eq_ok_iff, storeText_eq_ok_iff,
        inductionHypothesis, exists_and_right, List.forall_mem_cons]

theorem checkAll_eq_ok_iff {filters : List Filter} :
    checkAll scope converter filters = .ok ⟨⟩ ↔
      ∀ part ∈ filters, part.check scope converter = .ok ⟨⟩ := by
  induction filters with
  | nil => simp [checkAll]
  | cons part rest inductionHypothesis =>
      rw [checkAll, Answer.bind_eq_ok_iff, List.forall_mem_cons, ←
        inductionHypothesis]
      exact ⟨fun ⟨_, here, later⟩ =>
        ⟨here, later⟩, fun ⟨here, later⟩ => ⟨⟨⟩, here, later⟩⟩

/-- The check of a filter looks at every node in it. -/
theorem IsNodeOf.check_eq_ok {node filter : Filter}
    (within : IsNodeOf node filter)
    (checked : filter.check scope converter = .ok ⟨⟩) :
    node.check scope converter = .ok ⟨⟩ := by
  induction within with
  | self => exact checked
  | and member _ inductionHypothesis =>
      exact inductionHypothesis (checkAll_eq_ok_iff.mp checked _ member)
  | or member _ inductionHypothesis =>
      exact inductionHypothesis (checkAll_eq_ok_iff.mp checked _ member)
  | not _ inductionHypothesis => exact inductionHypothesis checked

/-! ## Evaluation that passes its handler by -/

section Handlers

variable {m : Type → Type} [Monad m] [LawfulMonad m]
  (handler : FallbackHandler m)

theorem holdsPatternWith_eq_pure {pattern : Pattern}
    (texts :
      ∀ fragment ∈ pattern.fragments,
        ∃ content, converter.toStore column fragment = some (.text content))
    (entity : Entity) :
    holdsPatternWith handler converter entity column pattern =
      pure (holdsPattern converter entity column pattern) := by
  have each : ∀ fragment ∈ pattern.fragments,
      storedFragmentWith handler converter column fragment =
        pure (storedFragment converter column fragment) := by
    intro fragment member
    obtain ⟨content, stored⟩ := texts fragment member
    rw [storedFragmentWith, storedFragment, stored]
  rw [holdsPatternWith, Pattern.mapM_eq_pure_map each, pure_bind]
  rfl

mutual

/-- A filter that passes its check is evaluated without its handler. -/
theorem evaluateWith_eq_pure (entity : Entity) : ∀ filter : Filter,
    filter.check scope converter = .ok ⟨⟩ →
      filter.evaluateWith handler converter entity =
        pure (filter.evaluate converter entity)
  | equals attr value, checked => by
      obtain ⟨column, resolved, rest⟩ := Answer.bind_eq_ok_iff.mp checked
      obtain ⟨stored, found, -⟩ := Answer.bind_eq_ok_iff.mp rest
      have writes := storeValue_eq_ok_iff.mp found
      simp only [evaluateWith, evaluate,
        (resolveColumn_eq_ok_iff.mp resolved).1, holdsEqualWith,
        holdsEqual, writes]
  | substring attr pattern, checked => by
      obtain ⟨column, resolved, rest⟩ := Answer.bind_eq_ok_iff.mp checked
      obtain ⟨_, -, texts⟩ := Answer.bind_eq_ok_iff.mp rest
      rw [evaluateWith, evaluate, (resolveColumn_eq_ok_iff.mp resolved).1]
      exact holdsPatternWith_eq_pure handler
        (checkFragments_eq_ok_iff.mp texts) entity
  | present attr, checked => by
      obtain ⟨column, resolved, -⟩ := Answer.bind_eq_ok_iff.mp checked
      rw [evaluateWith, evaluate, (resolveColumn_eq_ok_iff.mp resolved).1]
  | and parts, checked =>
      evaluateAllWith_eq_pure entity parts (checkAll_eq_ok_iff.mp checked)
  | or parts, checked =>
      evaluateAnyWith_eq_pure entity parts (checkAll_eq_ok_iff.mp checked)
  | not part, checked => by
      rw [evaluateWith, evaluate, evaluateWith_eq_pure entity part checked,
        pure_bind]
  | greaterOrEqual _ _, checked => nomatch checked
  | lessOrEqual _ _, checked => nomatch checked
  | approximate _ _, checked => nomatch checked
  | extensible _ _ _, checked => nomatch checked

theorem evaluateAllWith_eq_pure (entity : Entity) : ∀ filters : List Filter,
    (∀ part ∈ filters, part.check scope converter = .ok ⟨⟩) →
      evaluateAllWith handler converter entity filters =
        pure (evaluateAll converter entity filters)
  | [], _ => rfl
  | part :: rest, checked => by
      obtain ⟨here, later⟩ := List.forall_mem_cons.mp checked
      rw [evaluateAllWith, evaluateAll, evaluateWith_eq_pure entity part here,
        pure_bind]
      cases part.evaluate converter entity with
      | false => rfl
      | true => exact evaluateAllWith_eq_pure entity rest later

theorem evaluateAnyWith_eq_pure (entity : Entity) : ∀ filters : List Filter,
    (∀ part ∈ filters, part.check scope converter = .ok ⟨⟩) →
      evaluateAnyWith handler converter entity filters =
        pure (evaluateAny converter entity filters)
  | [], _ => rfl
  | part :: rest, checked => by
      obtain ⟨here, later⟩ := List.forall_mem_cons.mp checked
      rw [evaluateAnyWith, evaluateAny, evaluateWith_eq_pure entity part here,
        pure_bind]
      cases part.evaluate converter entity with
      | false => exact evaluateAnyWith_eq_pure entity rest later
      | true => rfl

end

end Handlers

/-! ## What is recorded -/

/-- Whether an action gives a value and records these fallbacks behind those
that it finds. -/
def Logs {α : Type} (action : StateM (List Fallback) α) (value : α)
    (taken : List Fallback) :
    Prop :=
  ∀ before, action.run before = (value, before ++ taken)

section Logs

variable {α β : Type} {value : α} {result : β} {taken after : List Fallback}

theorem logs_pure (value : α) : Logs (pure value) value [] :=
  fun before => Prod.ext rfl (List.append_nil before).symm

theorem logs_answer (fallback : Fallback) :
    Logs (FallbackHandler.logged.answer fallback) false [fallback] :=
  fun _ => rfl

theorem Logs.bind {action : StateM (List Fallback) α}
    {next : α → StateM (List Fallback) β} (first : Logs action value taken)
    (second : Logs (next value) result after) :
    Logs (action >>= next) result (taken ++ after) := by
  intro before
  rw [StateT.run_bind, first before]
  exact (second (before ++ taken)).trans (by rw [List.append_assoc])

theorem Logs.map {action : StateM (List Fallback) α}
    (first : Logs action value taken) (change : α → β) :
    Logs (change <$> action) (change value) taken := by
  intro before
  rw [StateT.run_map, first before]
  rfl

/-- The fallback that is taken from a fragment, if there is one. -/
def fragmentFallbacks (converter : Converter) (column : Column)
    (fragment : String) :
    List Fallback :=
  match converter.toStore column fragment with
  | some (.text _) => []
  | _ => [.unconverted column fragment]

theorem fragmentFallbacks_eq_nil_iff {fragment : String} :
    fragmentFallbacks converter column fragment = [] ↔
      ∃ content, converter.toStore column fragment = some (.text content) := by
  unfold fragmentFallbacks
  split <;> simp_all

variable (converter : Converter) (column : Column)

theorem logs_storedFragment (fragment : String) :
    Logs (storedFragmentWith .logged converter column fragment)
      (storedFragment converter column fragment)
      (fragmentFallbacks converter column fragment) := by
  unfold storedFragmentWith storedFragment fragmentFallbacks
  cases converter.toStore column fragment with
  | none => exact fun _ => rfl
  | some stored =>
      cases stored with
      | text content => exact logs_pure content
      | null | integer | blob => exact fun _ => rfl

theorem logs_edge (edge : Option String) :
    Logs (edge.mapM (storedFragmentWith .logged converter column))
      (edge.map (storedFragment converter column))
      (edge.toList.flatMap (fragmentFallbacks converter column)) := by
  cases edge with
  | none => exact logs_pure none
  | some fragment =>
      rw [Option.toList_some, List.flatMap_singleton]
      exact (logs_storedFragment converter column fragment).map some

theorem logs_middle (middle : List String) :
    Logs (middle.mapM (storedFragmentWith .logged converter column))
      (middle.map (storedFragment converter column))
      (middle.flatMap (fragmentFallbacks converter column)) := by
  induction middle with
  | nil => exact logs_pure []
  | cons fragment rest inductionHypothesis =>
      rw [List.mapM_cons, List.flatMap_cons]
      exact (logs_storedFragment converter column fragment).bind
        (inductionHypothesis.map
          (storedFragment converter column fragment :: ·))

theorem logs_pattern (pattern : Pattern) :
    Logs (pattern.mapM (storedFragmentWith .logged converter column))
      (pattern.map (storedFragment converter column))
      (pattern.fragments.flatMap (fragmentFallbacks converter column)) := by
  rw [Pattern.fragments, List.flatMap_append, List.flatMap_append,
    List.append_assoc]
  exact (logs_edge converter column pattern.initial).bind
    ((logs_middle converter column pattern.middle).bind
      ((logs_edge converter column pattern.final).map _))

/-- The fragments of a pattern are all looked up before any value is compared,
so each of them records its fallback. -/
theorem logs_holdsPattern (entity : Entity) (pattern : Pattern) :
    Logs (holdsPatternWith .logged converter entity column pattern)
      (holdsPattern converter entity column pattern)
      (pattern.fragments.flatMap (fragmentFallbacks converter column)) := by
  rw [holdsPatternWith, ← List.append_nil (pattern.fragments.flatMap _)]
  exact (logs_pattern converter column pattern).bind (logs_pure _)

end Logs

mutual

/-- What is recorded does not change the evaluation. -/
theorem exists_logs (converter : Converter) (entity : Entity) :
    ∀ filter : Filter,
    ∃ taken, Logs (filter.evaluateWith .logged converter entity)
      (filter.evaluate converter entity) taken
  | equals attr value => by
      rw [evaluateWith, evaluate]
      cases Column.ofAttribute? attr with
      | none => exact ⟨_, logs_answer (.unresolved attr)⟩
      | some column =>
          dsimp only
          unfold holdsEqualWith holdsEqual
          cases converter.toStore column value with
          | none => exact ⟨_, logs_answer (.declined column value)⟩
          | some wanted => exact ⟨_, logs_pure _⟩
  | substring attr pattern => by
      rw [evaluateWith, evaluate]
      cases Column.ofAttribute? attr with
      | none => exact ⟨_, logs_answer (.unresolved attr)⟩
      | some column =>
          exact ⟨_, logs_holdsPattern converter column entity pattern⟩
  | present attr => by
      rw [evaluateWith, evaluate]
      cases Column.ofAttribute? attr with
      | none => exact ⟨_, logs_answer (.unresolved attr)⟩
      | some column => exact ⟨_, logs_pure _⟩
  | and parts => exists_logs_all converter entity parts
  | or parts => exists_logs_any converter entity parts
  | not part => by
      obtain ⟨taken, logs⟩ := exists_logs converter entity part
      exact ⟨taken, logs.map (! ·)⟩
  | greaterOrEqual attr value =>
      ⟨_, logs_answer (.unsupported (greaterOrEqual attr value))⟩
  | lessOrEqual attr value =>
      ⟨_, logs_answer (.unsupported (lessOrEqual attr value))⟩
  | approximate attr value =>
      ⟨_, logs_answer (.unsupported (approximate attr value))⟩
  | extensible rule attr value =>
      ⟨_, logs_answer (.unsupported (extensible rule attr value))⟩

theorem exists_logs_all (converter : Converter) (entity : Entity) :
    ∀ filters : List Filter,
    ∃ taken, Logs (evaluateAllWith .logged converter entity filters)
      (evaluateAll converter entity filters) taken
  | [] => ⟨_, logs_pure true⟩
  | part :: rest => by
      obtain ⟨taken, here⟩ := exists_logs converter entity part
      obtain ⟨after, later⟩ := exists_logs_all converter entity rest
      rw [evaluateAllWith, evaluateAll]
      cases matched : part.evaluate converter entity with
      | false => exact ⟨_, here.bind (by rw [matched]; exact logs_pure false)⟩
      | true => exact ⟨_, here.bind (by rw [matched]; exact later)⟩

theorem exists_logs_any (converter : Converter) (entity : Entity) :
    ∀ filters : List Filter,
    ∃ taken, Logs (evaluateAnyWith .logged converter entity filters)
      (evaluateAny converter entity filters) taken
  | [] => ⟨_, logs_pure false⟩
  | part :: rest => by
      obtain ⟨taken, here⟩ := exists_logs converter entity part
      obtain ⟨after, later⟩ := exists_logs_any converter entity rest
      rw [evaluateAnyWith, evaluateAny]
      cases matched : part.evaluate converter entity with
      | false => exact ⟨_, here.bind (by rw [matched]; exact later)⟩
      | true => exact ⟨_, here.bind (by rw [matched]; exact logs_pure true)⟩

end

theorem Logs.evaluateLogged_eq {filter : Filter} {value : Bool}
    {taken : List Fallback}
    (logs : Logs (filter.evaluateWith .logged converter entity) value taken) :
    filter.evaluateLogged converter entity = (value, taken) :=
  logs []

theorem evaluateLogged_fst (filter : Filter) :
    (filter.evaluateLogged converter entity).1 =
        filter.evaluate converter entity := by
  obtain ⟨_, logs⟩ := exists_logs converter entity filter
  rw [logs.evaluateLogged_eq]

/-! ## Filters that pass their check -/

theorem exists_toStore_of_quiet {attr value : String}
    (named : Column.ofAttribute? attr = some column)
    (quiet : ((equals attr value).evaluateLogged converter entity).2 = []) :
    ∃ stored, converter.toStore column value = some stored := by
  cases declines : converter.toStore column value with
  | some stored => exact ⟨stored, rfl⟩
  | none =>
      have logs :
          Logs ((equals attr value).evaluateWith .logged converter entity) false
            [.declined column value] := by
        simp only [evaluateWith, named, holdsEqualWith, declines]
        exact logs_answer _
      rw [logs.evaluateLogged_eq] at quiet
      cases quiet

theorem texts_of_quiet {attr : String} {pattern : Pattern}
    (named : Column.ofAttribute? attr = some column)
    (quiet :
      ((substring attr pattern).evaluateLogged converter entity).2 = []) :
    ∀ fragment ∈ pattern.fragments, ∃ content,
      converter.toStore column fragment = some (.text content) := by
  have logs :
      Logs ((substring attr pattern).evaluateWith .logged converter entity)
        (holdsPattern converter entity column pattern)
        (pattern.fragments.flatMap (fragmentFallbacks converter column)) := by
    simp only [evaluateWith, named]
    exact logs_holdsPattern converter column entity pattern
  rw [logs.evaluateLogged_eq] at quiet
  exact fun fragment member =>
    fragmentFallbacks_eq_nil_iff.mp
      (List.flatMap_eq_nil_iff.mp quiet fragment member)

/-- A filter that has its columns passes its check if no node in it takes a
fallback. -/
theorem check_of_quiet {filter : Filter} (fits : Fits scope filter)
    (quiet :
      ∀ node,
        IsNodeOf node filter → (node.evaluateLogged converter entity).2 = []) :
    filter.check scope converter = .ok ⟨⟩ := by
  induction fits with
  | equals means =>
      obtain ⟨stored, writes⟩ := exists_toStore_of_quiet means.1 (quiet _ .self)
      exact Answer.bind_eq_ok_iff.mpr ⟨_, resolveColumn_eq_ok_iff.mpr means,
        Answer.bind_eq_ok_iff.mpr
          ⟨stored, storeValue_eq_ok_iff.mpr writes, rfl⟩⟩
  | substring means searchable =>
      have texts := texts_of_quiet means.1 (quiet _ .self)
      exact Answer.bind_eq_ok_iff.mpr ⟨_, resolveColumn_eq_ok_iff.mpr means,
        Answer.bind_eq_ok_iff.mpr ⟨⟨⟩, admitSubstring_eq_ok_iff.mpr searchable,
          checkFragments_eq_ok_iff.mpr texts⟩⟩
  | present means =>
      exact Answer.bind_eq_ok_iff.mpr
        ⟨_, resolveColumn_eq_ok_iff.mpr means, rfl⟩
  | and _ inductionHypothesis =>
      exact checkAll_eq_ok_iff.mpr fun part member =>
        inductionHypothesis part member fun node within =>
          quiet node (.and member within)
  | or _ inductionHypothesis =>
      exact checkAll_eq_ok_iff.mpr fun part member =>
        inductionHypothesis part member fun node within =>
          quiet node (.or member within)
  | not _ inductionHypothesis =>
      exact inductionHypothesis fun node within => quiet node (.not within)

/-- The fallbacks that an evaluation takes can be recorded without changing it.
A filter passes its check exactly if it has its columns and no node in it takes
a fallback. Whatever would be done in the place of the fallbacks then, every
node is evaluated as it is. -/
theorem check_ok_iff_never_falls_back (filter : Filter) (entity : Entity)
    (converter : Converter) :
    (filter.evaluateLogged converter entity).1 =
      filter.evaluate converter entity ∧
      (filter.check entity.kind converter = .ok ⟨⟩ ↔
        Fits entity.kind filter ∧
          ∀ node,
            IsNodeOf node filter →
              (node.evaluateLogged converter entity).2 = []) ∧
        (filter.check entity.kind converter = .ok ⟨⟩ →
          ∀ node, IsNodeOf node filter →
            ∀ (m : Type → Type) [Monad m] [LawfulMonad m]
              (handler : FallbackHandler m),
              node.evaluateWith handler converter entity =
                pure (node.evaluate converter entity)) := by
  have unhandled (checked : filter.check entity.kind converter = .ok ⟨⟩)
    (node : Filter)
      (within : IsNodeOf node filter) (m : Type → Type) [Monad m]
        [LawfulMonad m]
      (handler : FallbackHandler m) :
      node.evaluateWith handler converter entity =
          pure (node.evaluate converter entity) :=
    evaluateWith_eq_pure handler entity node (within.check_eq_ok checked)
  refine ⟨filter.evaluateLogged_fst,
    ⟨fun checked => ?_, fun ⟨fits, quiet⟩ => ?_⟩, unhandled⟩
  · refine ⟨fits_of_check converter filter checked, fun node within => ?_⟩
    rw [evaluateLogged, unhandled checked node within]
    rfl
  · exact check_of_quiet fits quiet

/-- A unit that is said to hold what only users are: it has their columns, and
no value in them. -/
def strayUnitSample : Entity :=
  .container ⟨.user, "u1", "stray"⟩

/-- A converter that declines mail addresses with an exclamation mark. -/
def waryConverterSample : Converter :=
  Converter.standard.adjust
    (fun column => if column = .email then some (.declineIf "!") else none)
      fun _ => none

/-- A negation of what the unit has no values for. -/
def unlikeAdaSample : Filter :=
  .not (.or [.equals "email" "ada@example", .contains "display-name" "Ada"])

theorem check_ok_iff_never_falls_back_unlikeAda :
    unlikeAdaSample.check strayUnitSample.kind waryConverterSample = .ok ⟨⟩ ∧
      unlikeAdaSample.evaluate waryConverterSample strayUnitSample = true ∧
      (∀ node, IsNodeOf node unlikeAdaSample →
        (node.evaluateLogged waryConverterSample strayUnitSample).2 = []) ∧
      unlikeAdaSample.evaluateWith (m := Except Fallback)
          ⟨.error, fun column fragment => .error (.unconverted column fragment)⟩
          waryConverterSample strayUnitSample = .ok true := by
  have checked :
      unlikeAdaSample.check strayUnitSample.kind waryConverterSample =
          .ok ⟨⟩ := by
    rfl
  have matched :
      unlikeAdaSample.evaluate waryConverterSample strayUnitSample = true := by
    rfl
  obtain ⟨_, passes, unhandled⟩ :=
    check_ok_iff_never_falls_back unlikeAdaSample strayUnitSample
      waryConverterSample
  refine ⟨checked, matched, (passes.mp checked).2, ?_⟩
  rw [unhandled checked _ .self (Except Fallback), matched]
  rfl

/-- A declined value under a negation makes an unchecked filter match. -/
example :
    (not (equals "email" "ada!")).evaluateLogged waryConverterSample
      strayUnitSample =
      (true, [.declined .email "ada!"]) := by
  rfl

end Filter

end CachedDirectory
