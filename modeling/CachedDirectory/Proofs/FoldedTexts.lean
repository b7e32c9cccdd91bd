import CachedDirectory.Text.Ascii
import CachedDirectory.Text.Blank
import CachedDirectory.Text.Fold
import Mathlib.Data.List.Basic

/-!
# Folded texts

A folded text has no ASCII capitals. So among folded texts, comparing letters
whatever their case is comparing them exactly. Folding neither brings in nor
takes away white space, so a text is blank if its folded form is.
-/

namespace CachedDirectory.Text

/-- Whether a text has no ASCII capitals. -/
def IsLowered (content : List Char) : Prop :=
  ∀ c ∈ content, c.toLower = c

theorem sameLetter_of_isLowered {left right : Char}
    (leftLowered : left.toLower = left) (rightLowered : right.toLower = right) :
    sameLetter left right = (left == right) := by
  rw [sameLetter, leftLowered, rightLowered]

/-- Only the capitals of ASCII are changed. -/
theorem toLower_eq_self {c : Char} (outside : c.toNat < 0x41 ∨ 0x5A < c.toNat) :
    c.toLower = c := by
  unfold Char.toLower
  rw [dif_neg]
  rintro ⟨least, greatest⟩
  have atLeast : 0x41 ≤ c.toNat := least
  have atMost : c.toNat ≤ 0x5A := greatest
  omega

theorem toNat_toLower_of_capital {c : Char} (least : 0x41 ≤ c.toNat)
    (greatest : c.toNat ≤ 0x5A) :
    c.toLower.toNat = c.toNat + 0x20 := by
  unfold Char.toLower
  rw [dif_pos ⟨least, greatest⟩]
  show (c.val + 0x20).toNat = c.val.toNat + 0x20
  rw [UInt32.toNat_add, Nat.mod_eq_of_lt]
  · rfl
  · show c.toNat + 0x20 < 2 ^ 32
    omega

theorem toLower_toLower (c : Char) : c.toLower.toLower = c.toLower := by
  by_cases capital : 0x41 ≤ c.toNat ∧ c.toNat ≤ 0x5A
  · apply toLower_eq_self
    right
    have moved := toNat_toLower_of_capital capital.1 capital.2
    omega
  · have same : c.toLower = c := toLower_eq_self (by omega)
    rw [same, same]

/-- No run of capitals is lowered to a capital of ASCII. -/
theorem capitals_lt_target : ∀ run ∈ caseRuns, 0x5A < run.target := by
  decide +kernel

theorem isLowered_ofNat {code : Nat} (beyond : 0x5A < code) :
    (Char.ofNat code).toLower = Char.ofNat code := by
  by_cases valid : code.isValidChar
  · rw [Char.ofNat, dif_pos valid]
    exact toLower_eq_self (Or.inr beyond)
  · rw [Char.ofNat, dif_neg valid]
    decide

theorem isLowered_lowerChar (c : Char) : IsLowered (lowerChar c) := by
  intro lowered member
  unfold lowerChar at member
  split at member
  · rw [List.mem_singleton.mp member]
    exact toLower_toLower c
  · rename_i beyond
    split at member
    · rcases List.mem_cons.mp member with rfl | member
      · decide
      · rw [List.mem_singleton.mp member]
        decide
    · split at member
      · rename_i run found
        rw [List.mem_singleton.mp member]
        have target := capitals_lt_target run (List.mem_of_find?_eq_some found)
        exact isLowered_ofNat (by omega)
      · rw [List.mem_singleton.mp member]
        exact toLower_eq_self (by omega)

theorem isLowered_lowerFrom (before content : List Char) :
    IsLowered (lowerFrom before content) := by
  induction content generalizing before with
  | nil => exact fun _ member => nomatch member
  | cons c rest inductionHypothesis =>
      intro lowered member
      rcases List.mem_append.mp member with first | later
      · split at first
        · rw [List.mem_singleton.mp first, lowerSigma]
          split <;> decide
        · exact isLowered_lowerChar c lowered first
      · exact inductionHypothesis (c :: before) lowered later

/-- A folded text has no ASCII capitals. -/
theorem isLowered_fold (text : String) : IsLowered (fold text).toList := by
  rw [toList_fold]
  exact isLowered_lowerFrom [] text.toList

/-! ## Blank texts -/

/-- No run of capitals and no run of the letters that they become meets a range
of white space. -/
theorem caseRuns_apart : ∀ run ∈ caseRuns, ∀ range ∈ blankRanges,
    (run.last < range.1 ∨ range.2 < run.first) ∧
      (run.target + (run.last - run.first) < range.1 ∨
          range.2 < run.target) := by
  decide +kernel

theorem inRanges_eq_false {ranges : List (Nat × Nat)} {code : Nat}
    (apart : ∀ range ∈ ranges, code < range.1 ∨ range.2 < code) :
    inRanges ranges code = false := by
  rw [inRanges, List.any_eq_false]
  intro range listed
  have outside := apart range listed
  simp only [Bool.and_eq_true, decide_eq_true_eq]
  omega

/-- A letter of a run is not white space, and what it becomes is not either. -/
theorem isBlankChar_of_run {run : CaseRun} (listed : run ∈ caseRuns) {c : Char}
    (holds : run.holds c.toNat = true) :
    isBlankChar c = false ∧
      isBlankChar (Char.ofNat (run.target + (c.toNat - run.first))) =
          false := by
  simp only [CaseRun.holds, Bool.and_eq_true, decide_eq_true_eq] at holds
  constructor
  · apply inRanges_eq_false
    intro range blank
    have apart := (caseRuns_apart run listed range blank).1
    omega
  · by_cases valid : (run.target + (c.toNat - run.first)).isValidChar
    · have code : (Char.ofNat (run.target + (c.toNat - run.first))).toNat =
          run.target + (c.toNat - run.first) := by
        rw [Char.ofNat, dif_pos valid]
        rfl
      rw [isBlankChar, code]
      apply inRanges_eq_false
      intro range blank
      have apart := (caseRuns_apart run listed range blank).2
      omega
    · rw [Char.ofNat, dif_neg valid]
      decide

theorem isBlankChar_of_letter {c : Char} (least : 0x41 ≤ c.toNat)
    (greatest : c.toNat ≤ 0x7A) :
    isBlankChar c = false := by
  apply inRanges_eq_false
  intro range blank
  have apart : range.2 < 0x41 ∨ 0x7A < range.1 := by
    revert range
    decide
  omega

theorem all_isBlankChar_lowerChar (c : Char) :
    (lowerChar c).all isBlankChar = isBlankChar c := by
  unfold lowerChar
  split
  · by_cases capital : 0x41 ≤ c.toNat ∧ c.toNat ≤ 0x5A
    · have moved := toNat_toLower_of_capital capital.1 capital.2
      have letter : isBlankChar c = false :=
        isBlankChar_of_letter (by omega) (by omega)
      have lowered : isBlankChar c.toLower = false :=
        isBlankChar_of_letter (by omega) (by omega)
      rw [letter]
      simpa using lowered
    · rw [toLower_eq_self (by omega)]
      simp
  · split
    · rename_i dotted
      subst dotted
      decide
    · split
      · rename_i run found
        have holds : run.holds c.toNat = true := by
          simpa using List.find?_some found
        obtain ⟨letter, lowered⟩ :=
          isBlankChar_of_run (List.mem_of_find?_eq_some found) holds
        rw [letter]
        simpa using lowered
      · simp

theorem all_isBlankChar_lowerFrom (before content : List Char) :
    (lowerFrom before content).all isBlankChar = content.all isBlankChar := by
  induction content generalizing before with
  | nil => rfl
  | cons c rest inductionHypothesis =>
      rw [lowerFrom, List.all_append, inductionHypothesis, List.all_cons]
      congr 1
      split
      · rename_i sigma
        subst sigma
        rw [lowerSigma]
        split <;> decide
      · exact all_isBlankChar_lowerChar c

/-- A folded text is blank if the text is. -/
theorem isBlank_fold (text : String) : isBlank (fold text) = isBlank text := by
  rw [isBlank, toList_fold, all_isBlankChar_lowerFrom, isBlank]

end CachedDirectory.Text
