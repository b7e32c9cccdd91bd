import CachedDirectory.Proofs.ConditionTexts

/-!
# Texts with their values

For reading, the values of a condition are written into its text one after the
other, each in the place of the first question mark that is left. A question
mark within a value that was written before is left too, and it stands first:
from there on values are written into values.
-/

namespace CachedDirectory

namespace Text

variable {mark : Char} {replacement first text : List Char}
  {replacements : List (List Char)}

/-- The text with each mark replaced by the replacement at its position. -/
def fillMarks (mark : Char) : List (List Char) → List Char → List Char
  | [], text => text
  | _ :: _, [] => []
  | replacement :: rest, c :: text =>
      if c = mark then
        replacement ++ fillMarks mark rest text
      else
        c :: fillMarks mark (replacement :: rest) text

/-- The text after the first mark that is left has been replaced once for each
replacement. -/
def replaceInTurn (mark : Char) (replacements : List (List Char))
    (text : List Char) : List Char :=
  replacements.foldl
    (fun shown replacement => replaceFirst mark replacement shown) text

theorem fillMarks_none (text : List Char) : fillMarks mark [] text = text := by
  unfold fillMarks
  rfl

theorem fillMarks_mark (text : List Char) :
    fillMarks mark (replacement :: replacements) (mark :: text) =
      replacement ++ fillMarks mark replacements text := by
  simp [fillMarks]

/-- The marks of a text that stands behind another get the replacements that are
left by it. -/
theorem fillMarks_append (replacements : List (List Char))
    (first text : List Char) :
    fillMarks mark replacements (first ++ text) =
      fillMarks mark (replacements.take (first.count mark)) first ++
        fillMarks mark (replacements.drop (first.count mark)) text := by
  induction first generalizing replacements with
  | nil => simp [fillMarks_none]
  | cons c first inductionHypothesis =>
      cases replacements with
      | nil => simp [fillMarks_none]
      | cons replacement replacements =>
          by_cases marked : c = mark
          · subst marked
            simp [fillMarks, inductionHypothesis]
          · have later := inductionHypothesis (replacement :: replacements)
            cases counted : first.count mark with
            | zero =>
                simpa [fillMarks, fillMarks_none, marked, counted] using later
            | succ n => simpa [fillMarks, marked, counted] using later

theorem fillMarks_append_of_notMem (clean : mark ∉ first)
    (replacements : List (List Char)) (text : List Char) :
    fillMarks mark replacements (first ++ text) =
        first ++ fillMarks mark replacements text := by
  rw [fillMarks_append, List.count_eq_zero.mpr clean]
  simp [fillMarks_none]

theorem replaceFirst_append_of_notMem (clean : mark ∉ first)
    (replacement text : List Char) :
    replaceFirst mark replacement (first ++ text) =
      first ++ replaceFirst mark replacement text := by
  induction first with
  | nil => rfl
  | cons c first inductionHypothesis =>
      simp only [List.mem_cons, not_or] at clean
      simp [replaceFirst, Ne.symm clean.1, inductionHypothesis clean.2]

theorem replaceFirst_mark (replacement text : List Char) :
    replaceFirst mark replacement (mark :: text) = replacement ++ text := by
  simp [replaceFirst]

/-- What stands before the first mark stays as it is, however often a mark is
replaced. -/
theorem replaceInTurn_append_of_notMem (clean : mark ∉ first)
    (replacements : List (List Char)) (text : List Char) :
    replaceInTurn mark replacements (first ++ text) =
      first ++ replaceInTurn mark replacements text := by
  induction replacements generalizing text with
  | nil => rfl
  | cons replacement replacements inductionHypothesis =>
      have once := replaceFirst_append_of_notMem clean replacement text
      simp only [replaceInTurn, List.foldl_cons, once] at inductionHypothesis ⊢
      exact inductionHypothesis (replaceFirst mark replacement text)

theorem replaceInTurn_mark (text : List Char) :
    replaceInTurn mark (replacement :: replacements) (mark :: text) =
      replaceInTurn mark replacements (replacement ++ text) := by
  rw [replaceInTurn, List.foldl_cons, replaceFirst_mark]
  rfl

/-- A replacement that does not begin with the mark differs from it at its first
character, whatever is replaced behind. -/
theorem replaceInTurn_ne_mark {c : Char} {rest : List Char}
    (starts : replacement = c :: rest) (differs : c ≠ mark)
    (text other : List Char) :
    replaceInTurn mark (replacement :: replacements) (mark :: text) ≠
        mark :: other := by
  have clean : mark ∉ [c] := by simpa using Ne.symm differs
  have shown := replaceInTurn_append_of_notMem clean replacements (rest ++ text)
  rw [replaceInTurn_mark, starts]
  intro same
  rw [List.cons_append, ←
    List.singleton_append, shown, List.singleton_append] at same
  exact differs (List.cons.inj same).1

/-- Replacing the first mark that is left again and again replaces each mark by
the replacement at its position exactly if no replacement but the last one has a
mark in it. -/
theorem replaceInTurn_eq_fillMarks_iff
    (heads :
      ∀ replacement ∈ replacements,
        ∃ c rest, replacement = c :: rest ∧ c ≠ mark)
    (enough : replacements.length ≤ text.count mark) :
    replaceInTurn mark replacements text = fillMarks mark replacements text ↔
      ∀ replacement ∈ replacements.dropLast, mark ∉ replacement := by
  induction replacements generalizing text with
  | nil => simp [replaceInTurn, fillMarks_none]
  | cons replacement replacements inductionHypothesis =>
      have marked : mark ∈ text :=
        List.count_pos_iff.mp (by simp at enough; omega)
      obtain ⟨before, after, rfl, clean⟩ := List.eq_append_cons_of_mem marked
      have laterHeads :
          ∀ replacement ∈ replacements,
              ∃ c rest, replacement = c :: rest ∧ c ≠ mark :=
        fun later member => heads later (List.mem_cons_of_mem _ member)
      have laterEnough : replacements.length ≤ after.count mark := by
        simpa [List.count_eq_zero.mpr clean] using enough
      rw [replaceInTurn_append_of_notMem clean,
        fillMarks_append_of_notMem clean, List.append_cancel_left_eq,
        fillMarks_mark]
      cases replacements with
      | nil => simp [replaceInTurn, replaceFirst_mark, fillMarks_none]
      | cons next others =>
          rw [List.dropLast_cons_of_ne_nil (List.cons_ne_nil next others),
            List.forall_mem_cons]
          by_cases inside : mark ∈ replacement
          · obtain ⟨inner, outer, rfl, cleanInner⟩ :=
              List.eq_append_cons_of_mem inside
            obtain ⟨c, rest, starts, differs⟩ :=
              laterHeads next List.mem_cons_self
            simp only [inside, not_true_eq_false, false_and, iff_false]
            rw [replaceInTurn_mark, List.append_assoc, List.append_assoc,
              replaceInTurn_append_of_notMem cleanInner,
              List.append_cancel_left_eq]
            exact replaceInTurn_ne_mark starts differs _ _
          · rw [replaceInTurn_mark, replaceInTurn_append_of_notMem inside,
              List.append_cancel_left_eq,
              inductionHypothesis laterHeads laterEnough]
            simp [inside]

end Text

namespace Condition

open Text

theorem mark_mem_replaceEach_iff {mark other : Char}
    {replacement text : List Char} (differs : mark ≠ other)
    (absent : mark ∉ replacement) :
    mark ∈ replaceEach other replacement text ↔ mark ∈ text := by
  simp only [replaceEach, List.mem_flatMap]
  constructor
  · rintro ⟨c, member, shown⟩
    split at shown
    · exact absurd shown absent
    · rwa [List.mem_singleton.mp shown]
  · intro member
    exact ⟨mark, member, by simp [differs]⟩

theorem questionMark_notMem_toDigits (n : Nat) : '?' ∉ Nat.toDigits 10 n :=
  fun member =>
    absurd (Nat.isDigit_of_mem_toDigits (by decide) (by decide) member)
      (by decide)

theorem questionMark_notMem_repr (n : Int) : '?' ∉ n.repr.toList := by
  rw [Int.repr_eq_if]
  split <;> simp [questionMark_notMem_toDigits]

theorem repr_ne_nil (n : Int) : n.repr.toList ≠ [] := by
  rw [Int.repr_eq_if]
  split <;> simp [Nat.toDigits_ne_nil]

/-- Only texts are shown with a question mark, and these if they have one. -/
theorem questionMark_mem_inlineValue_iff (value : SqlValue) :
    '?' ∈ inlineValue value ↔ ∃ content,
        value = .text content ∧ '?' ∈ content.toList := by
  cases value with
  | null => simp [inlineValue]
  | integer n => simpa [inlineValue] using questionMark_notMem_repr n
  | text content =>
      have doubled :
          '?' ∈ replaceEach '\'' ['\'', '\''] content.toList ↔
              '?' ∈ content.toList :=
        mark_mem_replaceEach_iff (by decide) (by decide)
      simp [inlineValue, doubled]
  | blob bytes =>
      simpa [inlineValue] using questionMark_notMem_toDigits bytes.length

theorem inlineValue_head (value : SqlValue) :
    ∃ c rest, inlineValue value = c :: rest ∧ c ≠ '?' := by
  cases value with
  | null => exact ⟨'N', ['U', 'L', 'L'], rfl, by decide⟩
  | integer n =>
      obtain ⟨c, rest, written⟩ := List.exists_cons_of_ne_nil (repr_ne_nil n)
      have digits := questionMark_notMem_repr n
      rw [written, List.mem_cons, not_or] at digits
      exact ⟨c, rest, written, Ne.symm digits.1⟩
  | text content => exact ⟨'\'', _, rfl, by decide⟩
  | blob bytes =>
      refine ⟨'<', (toString bytes.length ++ " bytes>").toList, ?_, by decide⟩
      simp [inlineValue]

theorem inlined_eq (condition : Condition) :
    condition.inlined =
      String.ofList
        (replaceInTurn '?' (condition.values.map inlineValue)
            condition.text.toList) := by
  rw [inlined, replaceInTurn, List.foldl_map]

/-- The text of a condition with each question mark replaced by the value at its
position. -/
def filled (condition : Condition) : String :=
  String.ofList (fillMarks '?' (condition.values.map inlineValue)
    condition.text.toList)

/-- A condition is shown with each value at its position exactly if no value but
the last one is a text with a question mark. -/
theorem inlined_eq_filled_iff (condition : Condition) :
    condition.inlined = condition.filled ↔
      ∀ content,
          .text content ∈ condition.values.dropLast → '?' ∉ content.toList := by
  have heads : ∀ shown ∈ condition.values.map inlineValue,
      ∃ c rest, shown = c :: rest ∧ c ≠ '?' := by
    intro shown member
    obtain ⟨value, _, rfl⟩ := List.mem_map.mp member
    exact inlineValue_head value
  have enough :
      (condition.values.map inlineValue).length ≤
          condition.text.toList.count '?' := by
    rw [List.length_map, condition.takes_text.marks]
  rw [inlined_eq, filled, String.ofList_inj,
      replaceInTurn_eq_fillMarks_iff heads enough, ←
    List.map_dropLast, List.forall_mem_map]
  simp only [questionMark_mem_inlineValue_iff]
  constructor
  · intro clean content member marked
    exact clean _ member ⟨content, rfl, marked⟩
  · rintro clean value member ⟨content, rfl, marked⟩
    exact clean content member marked

end Condition

namespace Filter

open Text Condition

variable {scope : EntityKind} {converter : Converter} {filter : Filter}
  {condition : Condition}

/-- A filter becomes a text with a question mark for each of its values. It is
shown with each value in its place exactly if no value but the last is a text
with a question mark in it; the values behind such a text are shown in it. -/
theorem shown_in_place_iff
    (translated : filter.storedCondition scope converter = .ok condition) :
    condition.text.toList.count '?' = condition.values.length ∧
      (inlined <$> filter.storedCondition scope converter =
        .ok condition.filled ↔
        ∀ content,
            .text content ∈ condition.values.dropLast →
                '?' ∉ content.toList) := by
  rw [translated]
  refine ⟨condition.takes_text.marks, ?_⟩
  rw [← inlined_eq_filled_iff]
  exact ⟨Except.ok.inj, congrArg Except.ok⟩

/-- A filter with a quote in one value and a question mark in the last. -/
def askingFilter : Filter :=
  .and [.equals "lastName" "O'Hara", .equals "id" "who?"]

def askingCondition : Condition :=
  .and [.equals .lastName (.text "o'hara"), .equals .id (.text "who?")]

theorem shown_in_place_asking :
    askingFilter.storedCondition .user .standard = .ok askingCondition ∧
      inlined <$> askingFilter.storedCondition .user .standard =
        .ok askingCondition.filled ∧
        askingCondition.filled =
          "((e.last_name_key IS NOT NULL AND e.last_name_key = 'o''hara') AND e.id_key = 'who?')" := by
  have translated :
      askingFilter.storedCondition .user .standard = .ok askingCondition := by
    rfl
  have clean : ∀ content, .text content ∈ askingCondition.values.dropLast →
      '?' ∉ content.toList := by
    simp [askingCondition, values, valuesAll]
  exact ⟨translated,
    (shown_in_place_iff translated).2.mpr clean, by decide +kernel⟩

/-- The second value of this filter is shown within the first. -/
theorem shown_out_of_place :
    let filter : Filter := .and [.equals "id" "a?", .equals "id" "b"]
    let condition : Condition :=
      .and [.equals .id (.text "a?"), .equals .id (.text "b")]
    filter.storedCondition .user .standard = .ok condition ∧
      condition.filled = "(e.id_key = 'a?' AND e.id_key = 'b')" ∧
        inlined <$> filter.storedCondition .user .standard =
          .ok "(e.id_key = 'a'b'' AND e.id_key = ?)" := by
  intro filter condition
  have translated : filter.storedCondition .user .standard = .ok condition := by
    rfl
  have shown : condition.inlined = "(e.id_key = 'a'b'' AND e.id_key = ?)" := by
    decide +kernel
  refine ⟨translated, by decide +kernel, ?_⟩
  rw [translated]
  exact congrArg Except.ok shown

end Filter

end CachedDirectory
