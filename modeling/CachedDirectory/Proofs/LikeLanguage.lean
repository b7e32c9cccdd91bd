import CachedDirectory.Proofs.Patterns
import Mathlib.Data.List.Forall2

/-!
# The language of a LIKE pattern

A percent sign leaves open for how long a run it stands, so a text may match a
pattern in many ways. The language of a pattern is told without choosing one of
them. The search that takes every stretch where it is found first decides this
language: whenever there is a way to go on after a stretch, there is one after
its leftmost place. For a substring pattern the language consists of the values
that can be cut into its fragments with any texts in between.
-/

namespace CachedDirectory

open Text

/-- Whether a text is in the language of a LIKE pattern, given which characters
agree: a percent sign stands for any run, an underscore for any character, an
exclamation mark takes from the character after it its special meaning, and
every other character stands for itself. -/
inductive IsLike {α : Type} (agree : Char → α → Bool) :
    List Char → List α → Prop
  | nothing : IsLike agree [] []
  | anyRun {pattern : List Char} {content : List α} (run : List α)
      (later : IsLike agree pattern content) :
        IsLike agree ('%' :: pattern) (run ++ content)
  | anyOne {pattern : List Char} {content : List α} (item : α)
      (later : IsLike agree pattern content) :
        IsLike agree ('_' :: pattern) (item :: content)
  | escaped {c : Char} {item : α} {pattern : List Char} {content : List α}
      (agrees : agree c item = true) (later : IsLike agree pattern content) :
      IsLike agree ('!' :: c :: pattern) (item :: content)
  | literal {c : Char} {item : α} {pattern : List Char} {content : List α}
      (plain : LikeStretch.isSpecial c = false) (agrees : agree c item = true)
      (later : IsLike agree pattern content) :
        IsLike agree (c :: pattern) (item :: content)

section Inversion

variable {α : Type} {agree : Char → α → Bool} {c : Char} {pattern : List Char}
  {content : List α}

theorem isLike_nil_iff : IsLike agree [] content ↔ content = [] := by
  constructor
  · intro like
    cases like
    rfl
  · rintro rfl
    exact .nothing

theorem isLike_percent_iff :
    IsLike agree ('%' :: pattern) content ↔
      ∃ run others, content = run ++ others ∧ IsLike agree pattern others := by
  constructor
  · intro like
    cases like with
    | anyRun run later => exact ⟨run, _, rfl, later⟩
    | literal plain _ _ => simp [LikeStretch.isSpecial] at plain
  · rintro ⟨run, others, rfl, later⟩
    exact .anyRun run later

theorem isLike_underscore_iff :
    IsLike agree ('_' :: pattern) content ↔
      ∃ item others,
          content = item :: others ∧ IsLike agree pattern others := by
  constructor
  · intro like
    cases like with
    | anyOne item later => exact ⟨item, _, rfl, later⟩
    | literal plain _ _ => simp [LikeStretch.isSpecial] at plain
  · rintro ⟨item, others, rfl, later⟩
    exact .anyOne item later

theorem isLike_escape_iff :
    IsLike agree ('!' :: c :: pattern) content ↔
      ∃ item others, content = item :: others ∧ agree c item = true ∧
        IsLike agree pattern others := by
  constructor
  · intro like
    cases like with
    | escaped agrees later => exact ⟨_, _, rfl, agrees, later⟩
    | literal plain _ _ => simp [LikeStretch.isSpecial] at plain
  · rintro ⟨item, others, rfl, agrees, later⟩
    exact .escaped agrees later

theorem not_isLike_unfinished : ¬IsLike agree ['!'] content := by
  intro like
  cases like with
  | literal plain _ _ => simp [LikeStretch.isSpecial] at plain

theorem isLike_literal_iff (plain : LikeStretch.isSpecial c = false) :
    IsLike agree (c :: pattern) content ↔
      ∃ item others, content = item :: others ∧ agree c item = true ∧
        IsLike agree pattern others := by
  constructor
  · intro like
    cases like with
    | literal _ agrees later => exact ⟨_, _, rfl, agrees, later⟩
    | anyRun | anyOne | escaped => simp [LikeStretch.isSpecial] at plain
  · rintro ⟨item, others, rfl, agrees, later⟩
    exact .literal plain agrees later

end Inversion

namespace LikeStretch

variable {α : Type} {agree : Char → α → Bool}

/-! ## Stretches and the parts that they stand for -/

/-- Whether a unit stands for an item. -/
def UnitFits (agree : Char → α → Bool) : LikeUnit → α → Prop
  | .anyOne, _ => True
  | .literal c, item => agree c item = true

/-- Whether a stretch stands for a part of a text, unit by unit. -/
def Fits (agree : Char → α → Bool) (stretch : LikeStretch) (part : List α) :
    Prop :=
  List.Forall₂ (UnitFits agree) stretch part

/-- Whether a text is made of parts for which stretches stand, with any runs
between them. -/
def Composed (agree : Char → α → Bool) : List LikeStretch → List α → Prop
  | [], content => content = []
  | [only], content => Fits agree only content
  | first :: next :: rest, content =>
      ∃ part run others,
        content = part ++ (run ++ others) ∧ Fits agree first part ∧
        Composed agree (next :: rest) others

variable {unit : LikeUnit} {stretch : LikeStretch}
  {stretches : List LikeStretch}
  {content part rest : List α}

theorem fits_cons_iff :
    Fits agree (unit :: stretch) content ↔
      ∃ item others, content = item :: others ∧ UnitFits agree unit item ∧
        Fits agree stretch others := by
  unfold Fits
  rw [List.forall₂_cons_left_iff]
  constructor
  · rintro ⟨item, others, here, later, rfl⟩
    exact ⟨item, others, rfl, here, later⟩
  · rintro ⟨item, others, rfl, here, later⟩
    exact ⟨item, others, here, later, rfl⟩

theorem composed_cons_iff (first : LikeStretch) (more : stretches ≠ []) :
    Composed agree (first :: stretches) content ↔
      ∃ part run others,
        content = part ++ (run ++ others) ∧ Fits agree first part ∧
        Composed agree stretches others := by
  cases stretches with
  | nil => exact absurd rfl more
  | cons next rest => exact Iff.rfl

theorem composed_extendFirst_iff (nonempty : stretches ≠ []) :
    Composed agree (extendFirst unit stretches) content ↔
      ∃ item others, content = item :: others ∧ UnitFits agree unit item ∧
        Composed agree stretches others := by
  cases stretches with
  | nil => exact absurd rfl nonempty
  | cons first rest =>
      cases rest with
      | nil => exact fits_cons_iff
      | cons next rest =>
          show Composed agree ((unit :: first) :: next :: rest) content ↔ _
          rw [composed_cons_iff _ (List.cons_ne_nil next rest)]
          constructor
          · rintro ⟨part, run, others, rfl, fits, later⟩
            obtain ⟨item, part, rfl, here, fits⟩ := fits_cons_iff.mp fits
            exact ⟨item, _, rfl, here, part, run, others, rfl, fits, later⟩
          · rintro ⟨item, _, rfl, here, part, run, others, rfl, fits, later⟩
            exact ⟨item :: part, run, others, rfl,
              fits_cons_iff.mpr ⟨item, part, rfl, here, fits⟩,
              later⟩

theorem composed_open_iff (more : stretches ≠ []) :
    Composed agree ([] :: stretches) content ↔
      ∃ run others,
          content = run ++ others ∧ Composed agree stretches others := by
  rw [composed_cons_iff [] more]
  constructor
  · rintro ⟨part, run, others, rfl, fits, later⟩
    cases fits
    exact ⟨run, others, rfl, later⟩
  · rintro ⟨run, others, rfl, later⟩
    exact ⟨[], run, others, rfl, .nil, later⟩

/-! ## The stretches of a pattern -/

theorem extendFirst_ne_nil (unit : LikeUnit) (stretches : List LikeStretch) :
    extendFirst unit stretches ≠ [] := by
  cases stretches <;> exact List.cons_ne_nil _ _

theorem ofPattern?_ne_nil {pattern : List Char}
    (read : ofPattern? pattern = some stretches) :
    stretches ≠ [] := by
  induction pattern using ofPattern?.induct generalizing stretches with
  | case1 =>
      cases read
      exact List.cons_ne_nil _ _
  | case3 => cases read
  | case4 rest =>
      rw [ofPattern?_percent] at read
      obtain ⟨others, _, rfl⟩ := Option.map_eq_some_iff.mp read
      exact List.cons_ne_nil _ _
  | case2 | case5 | case6 =>
      rw [ofPattern?] at read
      · obtain ⟨others, _, rfl⟩ := Option.map_eq_some_iff.mp read
        exact extendFirst_ne_nil _ _
      all_goals assumption

theorem ofPattern?_escape (c : Char) (rest : List Char) :
    ofPattern? ('!' :: c :: rest) =
        (ofPattern? rest).map (extendFirst (.literal c)) := by
  rw [ofPattern?]

theorem ofPattern?_underscore (rest : List Char) :
    ofPattern? ('_' :: rest) = (ofPattern? rest).map (extendFirst .anyOne) := by
  rw [ofPattern?]

theorem exists_composed_extendFirst_iff (unit : LikeUnit)
    (pattern : List Char) :
    (∃ stretches, (ofPattern? pattern).map (extendFirst unit) = some stretches ∧
        Composed agree stretches content) ↔
      ∃ item others, content = item :: others ∧ UnitFits agree unit item ∧
        ∃ stretches,
            ofPattern? pattern = some stretches ∧
                Composed agree stretches others := by
  constructor
  · rintro ⟨_, extended, composed⟩
    obtain ⟨stretches, read, rfl⟩ := Option.map_eq_some_iff.mp extended
    obtain ⟨item, others, split, fits, later⟩ :=
      (composed_extendFirst_iff (ofPattern?_ne_nil read)).mp composed
    exact ⟨item, others, split, fits, stretches, read, later⟩
  · rintro ⟨item, others, split, fits, stretches, read, later⟩
    refine ⟨extendFirst unit stretches, by rw [read, Option.map_some], ?_⟩
    exact (composed_extendFirst_iff (ofPattern?_ne_nil read)).mpr
      ⟨item, others, split, fits, later⟩

/-- A text is in the language of a pattern if it is made of parts for its
stretches. -/
theorem isLike_iff_composed {pattern : List Char} :
    IsLike agree pattern content ↔
      ∃ stretches,
          ofPattern? pattern = some stretches ∧
              Composed agree stretches content := by
  induction pattern using ofPattern?.induct generalizing content with
  | case1 =>
      rw [isLike_nil_iff]
      constructor
      · rintro rfl
        exact ⟨[[]], rfl, .nil⟩
      · rintro ⟨stretches, read, composed⟩
        cases read
        cases composed
        rfl
  | case2 c rest inductionHypothesis =>
      rw [isLike_escape_iff, ofPattern?_escape, exists_composed_extendFirst_iff]
      simp only [inductionHypothesis, UnitFits]
  | case3 =>
      constructor
      · exact fun like => absurd like not_isLike_unfinished
      · rintro ⟨stretches, read, _⟩
        cases read
  | case4 rest inductionHypothesis =>
      rw [isLike_percent_iff, ofPattern?_percent]
      constructor
      · rintro ⟨run, others, split, later⟩
        obtain ⟨stretches, read, composed⟩ := inductionHypothesis.mp later
        refine ⟨[] :: stretches, by rw [read, Option.map_some], ?_⟩
        exact (composed_open_iff (ofPattern?_ne_nil read)).mpr
          ⟨run, others, split, composed⟩
      · rintro ⟨_, opened, composed⟩
        obtain ⟨stretches, read, rfl⟩ := Option.map_eq_some_iff.mp opened
        obtain ⟨run, others, split, later⟩ :=
          (composed_open_iff (ofPattern?_ne_nil read)).mp composed
        exact ⟨run, others, split,
          inductionHypothesis.mpr ⟨stretches, read, later⟩⟩
  | case5 rest inductionHypothesis =>
      rw [isLike_underscore_iff, ofPattern?_underscore,
        exists_composed_extendFirst_iff]
      simp only [inductionHypothesis, UnitFits, true_and]
  | case6 c rest notEscape unfinished notPercent notUnderscore
      inductionHypothesis =>
      have plain : isSpecial c = false := by
        cases rest <;> simp_all [isSpecial]
      have escaped := ofPattern?_escaped c rest
      rw [plain] at escaped
      have read :
          ofPattern? (c :: rest) =
              (ofPattern? rest).map (extendFirst (.literal c)) :=
        escaped
      rw [isLike_literal_iff plain, read, exists_composed_extendFirst_iff]
      simp only [inductionHypothesis, UnitFits]

/-! ## Leftmost places -/

theorem after?_eq_some_iff :
    after? agree stretch content = some rest ↔
      ∃ part, content = part ++ rest ∧ Fits agree stretch part := by
  induction stretch generalizing content with
  | nil =>
      rw [after?, Option.some.injEq]
      constructor
      · rintro rfl
        exact ⟨[], rfl, .nil⟩
      · rintro ⟨part, rfl, fits⟩
        cases fits
        rfl
  | cons unit stretch inductionHypothesis =>
      have step : after? agree (unit :: stretch) content = some rest ↔
          ∃ item others, content = item :: others ∧ UnitFits agree unit item ∧
            after? agree stretch others = some rest := by
        cases content with
        | nil => cases unit <;> simp [after?]
        | cons item others => cases unit <;> simp [after?, UnitFits]
      rw [step]
      constructor
      · rintro ⟨item, others, rfl, here, later⟩
        obtain ⟨part, rfl, fits⟩ := inductionHypothesis.mp later
        exact ⟨item :: part, rfl,
          fits_cons_iff.mpr ⟨item, part, rfl, here, fits⟩⟩
      · rintro ⟨_, split, fits⟩
        obtain ⟨item, part, rfl, here, fits⟩ := fits_cons_iff.mp fits
        exact ⟨item, part ++ rest, split, here,
          inductionHypothesis.mpr ⟨part, rfl, fits⟩⟩

theorem exists_of_afterFirst?
    (found : afterFirst? agree stretch content = some rest) :
    ∃ run part, content = run ++ (part ++ rest) ∧ Fits agree stretch part := by
  induction content with
  | nil =>
      obtain ⟨part, split, fits⟩ := after?_eq_some_iff.mp found
      exact ⟨[], part, split, fits⟩
  | cons item content inductionHypothesis =>
      rw [afterFirst?] at found
      split at found
      · rename_i remaining here
        cases found
        obtain ⟨part, split, fits⟩ := after?_eq_some_iff.mp here
        exact ⟨[], part, split, fits⟩
      · obtain ⟨run, part, rfl, fits⟩ := inductionHypothesis found
        exact ⟨item :: run, part, rfl, fits⟩

/-- No place of a stretch leaves more of the text than the leftmost one. -/
theorem exists_afterFirst? (run : List α) (fits : Fits agree stretch part)
    (rest : List α) :
    ∃ remaining,
      afterFirst? agree stretch (run ++ (part ++ rest)) = some remaining ∧
      rest <:+ remaining := by
  have here : after? agree stretch (part ++ rest) = some rest :=
    after?_eq_some_iff.mpr ⟨part, rfl, fits⟩
  induction run with
  | nil =>
      refine ⟨rest, ?_, List.suffix_refl rest⟩
      rw [List.nil_append]
      cases whole : part ++ rest with
      | nil => rw [afterFirst?, ← whole, here]
      | cons item others => rw [afterFirst?, ← whole, here]
  | cons item run inductionHypothesis =>
      rw [List.cons_append, afterFirst?]
      cases earlier :
        after? agree stretch (item :: (run ++ (part ++ rest))) with
      | none => exact inductionHypothesis
      | some remaining =>
          refine ⟨remaining, rfl, ?_⟩
          obtain ⟨first, split, fitsFirst⟩ := after?_eq_some_iff.mp earlier
          have sameLength : first.length = part.length :=
            fitsFirst.length_eq.symm.trans fits.length_eq
          have total := congrArg List.length split
          simp only [List.length_cons, List.length_append] at total
          have suffix : rest <:+ first ++ remaining := by
            rw [← split]
            exact ⟨item :: (run ++ part), by simp⟩
          exact List.suffix_of_suffix_length_le suffix
            (List.suffix_append first remaining)
            (by omega)

theorem ends_eq_true_iff :
    ends agree stretch content = true ↔
      ∃ run part, content = run ++ part ∧ Fits agree stretch part := by
  rw [ends, Bool.and_eq_true, decide_eq_true_iff, Option.isSome_iff_exists]
  constructor
  · rintro ⟨short, rest, after⟩
    obtain ⟨part, split, fits⟩ := after?_eq_some_iff.mp after
    have total := congrArg List.length split
    rw [List.length_drop, List.length_append, ← fits.length_eq] at total
    have nothing : rest = [] := List.length_eq_zero_iff.mp (by omega)
    rw [nothing, List.append_nil] at split
    exact ⟨_, part, (split ▸ List.take_append_drop _ content).symm, fits⟩
  · rintro ⟨run, part, rfl, fits⟩
    have length : (run ++ part).length - stretch.length = run.length := by
      rw [List.length_append, fits.length_eq, Nat.add_sub_cancel]
    rw [length, List.drop_left, List.length_append, fits.length_eq]
    refine ⟨Nat.le_add_left _ _, [], after?_eq_some_iff.mpr ⟨part, ?_, fits⟩⟩
    rw [List.append_nil]

/-- Taking each stretch at its leftmost place finds a way to go on whenever
there is one. -/
theorem followOn_eq_true_iff (nonempty : stretches ≠ []) :
    followOn agree stretches content = true ↔
      ∃ run others,
          content = run ++ others ∧ Composed agree stretches others := by
  induction stretches generalizing content with
  | nil => exact absurd rfl nonempty
  | cons stretch rest inductionHypothesis =>
      by_cases more : rest = []
      · subst more
        exact ends_eq_true_iff
      · rw [followOn_cons stretch more]
        constructor
        · intro follows
          cases found : afterFirst? agree stretch content with
          | none => simp [found] at follows
          | some remaining =>
              rw [found] at follows
              obtain ⟨run, part, rfl, fits⟩ := exists_of_afterFirst? found
              obtain ⟨between, others, rfl, composed⟩ :=
                (inductionHypothesis more).mp follows
              refine ⟨run, _, rfl, (composed_cons_iff stretch more).mpr ?_⟩
              exact ⟨part, between, others, rfl, fits, composed⟩
        · rintro ⟨run, _, rfl, composed⟩
          obtain ⟨part, between, others, rfl, fits, later⟩ :=
            (composed_cons_iff stretch more).mp composed
          obtain ⟨remaining, found, suffix⟩ :=
            exists_afterFirst? run fits (between ++ others)
          rw [found, Option.map_some, Option.getD_some]
          obtain ⟨skipped, rfl⟩ := suffix
          refine (inductionHypothesis more).mpr
            ⟨skipped ++ between, others, ?_, later⟩
          rw [List.append_assoc]

theorem compose_eq_true_iff (nonempty : stretches ≠ []) :
    compose agree stretches content = true ↔
        Composed agree stretches content := by
  cases stretches with
  | nil => exact absurd rfl nonempty
  | cons first rest =>
      by_cases more : rest = []
      · subst more
        show (after? agree first content).any List.isEmpty = true ↔
          Fits agree first content
        rw [Option.any_eq_true]
        constructor
        · rintro ⟨remaining, after, nothing⟩
          obtain ⟨part, rfl, fits⟩ := after?_eq_some_iff.mp after
          rw [List.isEmpty_iff.mp nothing, List.append_nil]
          exact fits
        · intro fits
          exact ⟨[],
            after?_eq_some_iff.mpr
              ⟨content, (List.append_nil content).symm, fits⟩, rfl⟩
      · rw [compose_cons first more, composed_cons_iff first more]
        constructor
        · intro composes
          cases found : after? agree first content with
          | none => simp [found] at composes
          | some remaining =>
              rw [found] at composes
              obtain ⟨part, rfl, fits⟩ := after?_eq_some_iff.mp found
              obtain ⟨run, others, rfl, composed⟩ :=
                (followOn_eq_true_iff more).mp composes
              exact ⟨part, run, others, rfl, fits, composed⟩
        · rintro ⟨part, run, others, rfl, fits, composed⟩
          have found :
              after? agree first (part ++ (run ++ others)) =
                  some (run ++ others) :=
            after?_eq_some_iff.mpr ⟨part, rfl, fits⟩
          rw [found]
          exact (followOn_eq_true_iff more).mpr ⟨run, others, rfl, composed⟩

end LikeStretch

/-- The search decides the language of a pattern. -/
theorem matchesLike_eq_true_iff {α : Type} {agree : Char → α → Bool}
    {pattern : List Char} {content : List α} :
    matchesLike agree pattern content = true ↔
        IsLike agree pattern content := by
  rw [LikeStretch.isLike_iff_composed, matchesLike]
  cases read : LikeStretch.ofPattern? pattern with
  | none => simp
  | some stretches =>
      have nonempty := LikeStretch.ofPattern?_ne_nil read
      simp [LikeStretch.compose_eq_true_iff nonempty]

namespace Pattern

open LikeStretch

/-- Whether a value can be cut into the fragments of a pattern, with any texts
in between. -/
def Cuts (pattern : Pattern) (value : String) : Prop :=
  ∃ (first : List Char) (gaps : List (List Char)),
    gaps.length = pattern.middle.length ∧
    value.toList = edgeText pattern.initial ++ first ++
      (pattern.middle.zip gaps).flatMap
        (fun (fragment, gap) => fragment.toList ++ gap) ++
        edgeText pattern.final

theorem fits_literals_iff {fragment part : List Char} :
    Fits (· == ·) (literals fragment) part ↔ part = fragment := by
  rw [Fits, literals, List.forall₂_map_left_iff]
  simp only [UnitFits, beq_iff_eq]
  rw [List.forall₂_eq_eq_eq]
  exact eq_comm

/-- The stretches after the first one stand for texts that begin with the
fragments in the middle, each with a gap after it. -/
theorem composed_middle_iff {middle : List String} {final : Option String}
    {content : List Char} :
    Composed (· == ·)
        ((middle.map fun fragment => literals fragment.toList) ++
          [literals (edgeText final)])
        content ↔
      ∃ gaps : List (List Char), gaps.length = middle.length ∧
        content = (middle.zip gaps).flatMap
          (fun (fragment, gap) => fragment.toList ++ gap) ++
          edgeText final := by
  induction middle generalizing content with
  | nil =>
      show Fits (· == ·) (literals (edgeText final)) content ↔ _
      rw [fits_literals_iff]
      constructor
      · rintro rfl
        exact ⟨[], rfl, rfl⟩
      · rintro ⟨gaps, _, rfl⟩
        rfl
  | cons fragment middle inductionHypothesis =>
      rw [List.map_cons, List.cons_append, composed_cons_iff _ (by simp)]
      constructor
      · rintro ⟨part, gap, others, rfl, fits, later⟩
        cases fits_literals_iff.mp fits
        obtain ⟨gaps, length, rfl⟩ := inductionHypothesis.mp later
        refine ⟨gap :: gaps, by simp [length], ?_⟩
        simp
      · rintro ⟨gaps, length, rfl⟩
        cases gaps with
        | nil => cases length
        | cons gap gaps =>
            refine ⟨fragment.toList, gap, _, ?_, fits_literals_iff.mpr rfl,
              inductionHypothesis.mpr ⟨gaps, Nat.succ.inj length, rfl⟩⟩
            simp

theorem composed_stretches_iff {pattern : Pattern} {value : String} :
    Composed (· == ·) pattern.stretches value.toList ↔ pattern.Cuts value := by
  rw [stretches, List.cons_append, composed_cons_iff _ (by simp)]
  constructor
  · rintro ⟨part, first, others, split, fits, later⟩
    cases fits_literals_iff.mp fits
    obtain ⟨gaps, length, rfl⟩ := composed_middle_iff.mp later
    refine ⟨first, gaps, length, ?_⟩
    rw [split, List.append_assoc, List.append_assoc]
  · rintro ⟨first, gaps, length, split⟩
    refine ⟨_, first, _, ?_, fits_literals_iff.mpr rfl,
      composed_middle_iff.mpr ⟨gaps, length, rfl⟩⟩
    rw [split, List.append_assoc, List.append_assoc]

/-- A pattern accepts the values in the language of its LIKE pattern, which are
those that can be cut into its fragments, whatever characters these hold. -/
theorem accepts_language (pattern : Pattern) (value : String) :
    (pattern.accepts value = true ↔
      IsLike (· == ·) pattern.likeText.toList value.toList) ∧
      (pattern.accepts value = true ↔ pattern.Cuts value) := by
  have same :
      matchesLike (· == ·) pattern.likeText.toList value.toList =
          pattern.accepts value :=
    matchesLike_of_agreeExactly fun _ _ _ _ _ _ => rfl
  have language : pattern.accepts value = true ↔
      IsLike (· == ·) pattern.likeText.toList value.toList := by
    rw [← same, matchesLike_eq_true_iff]
  refine ⟨language, language.trans ?_⟩
  rw [isLike_iff_composed, ofPattern?_likeText, ← composed_stretches_iff]
  constructor
  · rintro ⟨stretches, read, composed⟩
    cases read
    exact composed
  · exact fun composed => ⟨pattern.stretches, rfl, composed⟩

end Pattern

end CachedDirectory
