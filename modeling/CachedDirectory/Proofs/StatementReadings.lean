import CachedDirectory.Sql.Statement
import Mathlib.Data.List.Basic
import Mathlib.Data.List.TakeWhile

/-!
# Readings of a statement

How the text of a statement is to be read is told place by place. A place is
within a literal if the quotes before it are odd in number. Outside of literals
a question mark is a placeholder, and so is a colon together with the longest
name after it. Every text has one such reading, and the scan of its pieces finds
it.
-/

namespace CachedDirectory

open Text

namespace Piece

/-- The characters as which a piece is written. -/
def written : Piece → List Char
  | plain c => [c]
  | positional => ['?']
  | named name => ':' :: name.toList

/-- Whether the place after a text is within a literal. -/
def WithinLiteral (before : List Char) : Prop :=
  before.count '\'' % 2 = 1

instance (before : List Char) : Decidable (WithinLiteral before) :=
  inferInstanceAs (Decidable (_ = _))

/-- Whether a text is a name: a letter or an underscore, and then letters,
digits and underscores. -/
def IsName (content : List Char) : Prop :=
  content.head?.any isNameStart = true ∧ ∀ c ∈ content, isNameChar c = true

/-- Whether a piece may stand between two texts. A placeholder is not within a
literal, and a name goes as far as it can; a character that stands for itself is
within a literal or is no placeholder. -/
def FitsBetween (before : List Char) : Piece → List Char → Prop
  | plain c, after =>
      WithinLiteral before ∨
        (c ≠ '?' ∧ ¬(c = ':' ∧ after.head?.any isNameStart = true))
  | positional, _ => ¬WithinLiteral before
  | named name, after =>
      ¬WithinLiteral before ∧ IsName name.toList ∧
        after.head?.any isNameChar = false

/-- Whether a text that stands after another one is read as pieces. -/
structure IsReading (earlier text : List Char) (pieces : List Piece) :
    Prop where
  writes : pieces.flatMap written = text
  fits : ∀ before piece after, pieces = before ++ piece :: after →
    FitsBetween (earlier ++ before.flatMap written) piece
      (after.flatMap written)

variable {earlier text : List Char} {piece : Piece} {pieces : List Piece}

theorem isReading_nil_iff : IsReading earlier text [] ↔ text = [] := by
  constructor
  · exact fun reading => reading.writes.symm
  · rintro rfl
    refine ⟨rfl, ?_⟩
    intro before piece after split
    simp at split

/-- A reading goes on after its first piece. -/
theorem isReading_cons_iff :
    IsReading earlier text (piece :: pieces) ↔
      ∃ rest, text = piece.written ++ rest ∧ FitsBetween earlier piece rest ∧
        IsReading (earlier ++ piece.written) rest pieces := by
  constructor
  · rintro ⟨rfl, fits⟩
    refine ⟨pieces.flatMap written, List.flatMap_cons, ?_, rfl, ?_⟩
    · have here := fits [] piece pieces rfl
      rwa [List.flatMap_nil, List.append_nil] at here
    · intro before other after split
      have later :=
        fits (piece :: before) other after (congrArg (piece :: ·) split)
      rwa [List.flatMap_cons, ← List.append_assoc] at later
  · rintro ⟨rest, rfl, here, later⟩
    have writes := later.writes
    refine ⟨by rw [List.flatMap_cons, writes], ?_⟩
    intro before other after split
    cases before with
    | nil =>
        obtain ⟨rfl, rfl⟩ := List.cons.inj split
        rw [List.flatMap_nil, List.append_nil, writes]
        exact here
    | cons first before =>
        rw [List.cons_append] at split
        obtain ⟨rfl, others⟩ := List.cons.inj split
        rw [List.flatMap_cons, ← List.append_assoc]
        exact later.fits before other after others

/-! ## Literals -/

theorem withinLiteral_append_iff (more : List Char) :
    WithinLiteral (earlier ++ more) ↔
      (earlier.count '\'' + more.count '\'') % 2 = 1 := by
  rw [WithinLiteral, List.count_append]

/-- A quote opens or closes a literal, and no other character does. -/
theorem withinLiteral_plain (c : Char) :
    decide (WithinLiteral (earlier ++ (plain c).written)) =
      (decide (WithinLiteral earlier) != (c == '\'')) := by
  rw [Bool.eq_iff_iff, decide_eq_true_iff, withinLiteral_append_iff]
  by_cases quote : c = '\''
  · have one : (plain c).written.count '\'' = 1 := by simp [written, quote]
    have toggled :
        (earlier.count '\'' + 1) % 2 = 1 ↔ ¬earlier.count '\'' % 2 = 1 := by
      omega
    rw [one, toggled, ← WithinLiteral]
    simp [quote]
  · have none : (plain c).written.count '\'' = 0 := by simp [written, quote]
    have other : (c == '\'') = false := by simp [quote]
    rw [none, other, Nat.add_zero, ← WithinLiteral]
    simp

theorem count_quote_name {content : List Char}
    (letters : ∀ c ∈ content, isNameChar c = true) :
    content.count '\'' = 0 := by
  rw [List.count_eq_zero]
  intro member
  have letter := letters '\'' member
  revert letter
  decide

theorem withinLiteral_placeholder (fits : FitsBetween earlier piece text)
    (placeholder : ∀ c, piece ≠ plain c) :
    decide (WithinLiteral (earlier ++ piece.written)) = false := by
  have none : piece.written.count '\'' = 0 := by
    cases piece with
    | plain c => exact absurd rfl (placeholder c)
    | positional => rfl
    | named name =>
        obtain ⟨_, isName, _⟩ := fits
        rw [written, List.count_cons, count_quote_name isName.2]
        rfl
  have outside : ¬WithinLiteral earlier := by
    cases piece with
    | plain c => exact absurd rfl (placeholder c)
    | positional => exact fits
    | named name => exact fits.1
  rw [decide_eq_false_iff_not, withinLiteral_append_iff, none]
  exact outside

/-! ## The scan -/

theorem scan_literal (c : Char) (rest : List Char) :
    scan true (c :: rest) = plain c :: scan (c != '\'') rest := by
  rw [scan]

theorem scan_positional (rest : List Char) :
    scan false ('?' :: rest) = positional :: scan false rest := by
  rw [scan, if_pos rfl]

theorem scan_named {rest : List Char}
    (starts : rest.head?.any isNameStart = true) :
    scan false (':' :: rest) =
      named (String.ofList (rest.takeWhile isNameChar)) ::
        scan false (rest.dropWhile isNameChar) := by
  rw [scan, if_neg (by decide), if_pos ⟨rfl, starts⟩]

theorem scan_plain {c : Char} {rest : List Char} (notPositional : c ≠ '?')
    (notNamed : ¬(c = ':' ∧ rest.head?.any isNameStart = true)) :
    scan false (c :: rest) = plain c :: scan (c == '\'') rest := by
  rw [scan, if_neg notPositional, if_neg notNamed]

theorem takeWhile_name {content rest : List Char}
    (letters : ∀ c ∈ content, isNameChar c = true)
    (ends : rest.head?.any isNameChar = false) :
    (content ++ rest).takeWhile isNameChar = content ∧
      (content ++ rest).dropWhile isNameChar = rest := by
  rw [List.takeWhile_append_of_pos letters,
    List.dropWhile_append_of_pos letters]
  cases rest with
  | nil => simp
  | cons c rest =>
      have other : isNameChar c = false := ends
      simp [other]

theorem IsName.head?_append {content : List Char} (isName : IsName content)
    (rest : List Char) :
    (content ++ rest).head?.any isNameStart = true := by
  cases content with
  | nil => exact absurd isName.1 (by simp)
  | cons c content => exact isName.1

/-- The scan gives the reading of a text. -/
theorem IsReading.scan_eq (reading : IsReading earlier text pieces) :
    scan (decide (WithinLiteral earlier)) text = pieces := by
  induction pieces generalizing earlier text with
  | nil =>
      rw [isReading_nil_iff.mp reading]
      exact scan.eq_1 _
  | cons piece pieces inductionHypothesis =>
      obtain ⟨rest, rfl, fits, later⟩ := isReading_cons_iff.mp reading
      have found := inductionHypothesis later
      cases piece with
      | plain c =>
          rw [withinLiteral_plain] at found
          show scan _ (c :: rest) = _
          by_cases within : WithinLiteral earlier
          · rw [decide_eq_true within] at found ⊢
            have toggled : (c != '\'') = (true != (c == '\'')) :=
              (Bool.true_bne _).symm
            rw [scan_literal, toggled, found]
          · obtain ⟨notPositional, notNamed⟩ := fits.resolve_left within
            rw [decide_eq_false within] at found ⊢
            rw [Bool.false_bne] at found
            rw [scan_plain notPositional notNamed, found]
      | positional =>
          have outside : ¬WithinLiteral earlier := fits
          rw [withinLiteral_placeholder fits (by simp)] at found
          rw [decide_eq_false outside]
          show scan false ('?' :: rest) = _
          rw [scan_positional, found]
      | named name =>
          obtain ⟨outside, isName, ends⟩ := id fits
          obtain ⟨taken, dropped⟩ := takeWhile_name isName.2 ends
          rw [withinLiteral_placeholder fits (by simp)] at found
          rw [decide_eq_false outside]
          show scan false (':' :: (name.toList ++ rest)) = _
          rw [scan_named (isName.head?_append rest), taken, dropped, found,
            String.ofList_toList]

theorem isNameChar_of_isNameStart {c : Char} (letter : isNameStart c = true) :
    isNameChar c = true := by
  simp only [isNameStart, Bool.or_eq_true] at letter
  simp only [isNameChar, Char.isAlphanum, Bool.or_eq_true]
  exact letter.imp_left .inl

theorem fitsBetween_named {rest : List Char} (outside : ¬WithinLiteral earlier)
    (starts : rest.head?.any isNameStart = true) :
    FitsBetween earlier (named (String.ofList (rest.takeWhile isNameChar)))
      (rest.dropWhile isNameChar) := by
  have first : (rest.takeWhile isNameChar).head?.any isNameStart = true := by
    cases rest with
    | nil => simp at starts
    | cons c rest =>
        have letter : isNameStart c = true := starts
        have within : isNameChar c = true := isNameChar_of_isNameStart letter
        rw [List.takeWhile_cons_of_pos within]
        exact letter
  have letters : ∀ c ∈ rest.takeWhile isNameChar, isNameChar c = true :=
    fun c member => List.mem_takeWhile_imp member
  have ends : (rest.dropWhile isNameChar).head?.any isNameChar = false := by
    cases left : rest.dropWhile isNameChar with
    | nil => rfl
    | cons c others =>
        have stopped := List.head?_dropWhile_not isNameChar rest
        rw [left] at stopped
        simpa using stopped
  refine ⟨outside, ?_, ends⟩
  rw [String.toList_ofList]
  exact ⟨first, letters⟩

/-- What the scan gives is a reading, so every text has one. -/
theorem isReading_scan {inLiteral : Bool}
    (state : decide (WithinLiteral earlier) = inLiteral) :
    IsReading earlier text (scan inLiteral text) := by
  fun_induction scan inLiteral text generalizing earlier with
  | case1 => exact isReading_nil_iff.mpr rfl
  | case2 c rest inductionHypothesis =>
      have within : WithinLiteral earlier := decide_eq_true_iff.mp state
      have toggled :
          decide (WithinLiteral (earlier ++ (plain c).written)) =
              (c != '\'') := by
        rw [withinLiteral_plain, state, Bool.true_bne]
        rfl
      exact isReading_cons_iff.mpr
        ⟨rest, rfl, .inl within, inductionHypothesis toggled⟩
  | case3 rest inductionHypothesis =>
      have outside : FitsBetween earlier positional rest :=
        decide_eq_false_iff_not.mp state
      have after := withinLiteral_placeholder outside (by simp)
      exact isReading_cons_iff.mpr
        ⟨rest, rfl, outside, inductionHypothesis after⟩
  | case4 c rest _ starts inductionHypothesis =>
      obtain ⟨rfl, starts⟩ := starts
      have outside : ¬WithinLiteral earlier := decide_eq_false_iff_not.mp state
      have stands := fitsBetween_named outside starts
      have after := withinLiteral_placeholder stands (by simp)
      have cut : ':' :: rest =
          (named (String.ofList (rest.takeWhile isNameChar))).written ++
            rest.dropWhile isNameChar := by
        rw [written, String.toList_ofList, List.cons_append,
          List.takeWhile_append_dropWhile]
      exact isReading_cons_iff.mpr ⟨_, cut, stands, inductionHypothesis after⟩
  | case5 c rest notPositional notNamed inductionHypothesis =>
      have toggled :
          decide (WithinLiteral (earlier ++ (plain c).written)) =
              (c == '\'') := by
        rw [withinLiteral_plain, state, Bool.false_bne]
      have stands : FitsBetween earlier (plain c) rest :=
        .inr ⟨notPositional, notNamed⟩
      exact isReading_cons_iff.mpr
        ⟨rest, rfl, stands, inductionHypothesis toggled⟩

end Piece

end CachedDirectory
