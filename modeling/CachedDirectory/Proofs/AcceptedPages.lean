import CachedDirectory.Proofs.Actions
import CachedDirectory.Store.Selection

/-!
# Pages that the store accepts

The text of a statement is read to its end if its tree is not too high and its
values are not too many. So the statement of a page is prepared exactly if it is
within all limits that show in its text, and it is answered if its patterns are
not too long either.
-/

namespace CachedDirectory

namespace Statement

/-- How the reading of a text ends of which the tree has a height and which has
a number of values. -/
inductive ReadingEnd (height values : Nat) : Answer Parsed → Prop
  | read (low : height ≤ heightBound) (few : values ≤ valueBound) :
      ReadingEnd height values (.ok ⟨height, values⟩)
  | tooHigh (high : heightBound < height) :
      ReadingEnd height values (.error heightError)
  | tooMany (many : valueBound < values) :
      ReadingEnd height values (.error valueError)

namespace ReadingEnd

variable {height values higher more : Nat} {answer : Answer Parsed}
  {next : Parsed → Answer Parsed}

/-- What goes on with a text that was read ends as the whole of it does, which
is no lower and has no fewer values. -/
theorem bind (readingEnd : ReadingEnd height values answer)
    (lower : height ≤ higher) (fewer : values ≤ more)
    (goesOn : height ≤ heightBound → values ≤ valueBound →
      ReadingEnd higher more (next ⟨height, values⟩)) :
    ReadingEnd higher more (answer >>= next) := by
  cases readingEnd with
  | read low few => exact goesOn low few
  | tooHigh high => exact .tooHigh (Nat.lt_of_lt_of_le high lower)
  | tooMany many => exact .tooMany (Nat.lt_of_lt_of_le many fewer)

theorem nextValue (low : height ≤ heightBound) :
    ReadingEnd height (values + 1) (nextValue ⟨height, values⟩) := by
  rw [Statement.nextValue]
  split
  · rename_i few
    exact .read low few
  · rename_i many
    exact .tooMany (Nat.lt_succ_of_le (Nat.le_of_not_lt many))

theorem raise (few : values ≤ valueBound) :
    ReadingEnd (height + 1) values (raise ⟨height, values⟩) := by
  rw [Statement.raise]
  split
  · rename_i low
    exact .read low few
  · rename_i high
    exact .tooHigh (Nat.lt_succ_of_le (Nat.le_of_not_lt high))

end ReadingEnd

end Statement

namespace Condition

open Statement (ReadingEnd)

theorem equalsHeight_le (column : Column) :
    equalsHeight column ≤ Statement.heightBound := by
  cases column <;> decide

theorem likeHeight_le (column : Column) :
    likeHeight column ≤ Statement.heightBound := by
  cases column <;> decide

theorem presentHeight_le (column : Column) :
    presentHeight column ≤ Statement.heightBound := by
  cases column <;> decide

/-- The height of conditions that are joined with a tree. -/
def restHeight (reached : Nat) (parts : List Condition) : Nat :=
  (heights parts).foldl (fun reached height => max reached height + 1) reached

theorem restHeight_cons (reached : Nat) (part : Condition)
    (rest : List Condition) :
    restHeight reached (part :: rest) =
      restHeight (max reached part.height + 1) rest :=
  rfl

theorem le_restHeight (reached : Nat) (parts : List Condition) :
    reached ≤ restHeight reached parts := by
  induction parts generalizing reached with
  | nil => exact Nat.le_refl reached
  | cons part rest inductionHypothesis =>
      have step := inductionHypothesis (max reached part.height + 1)
      rw [restHeight_cons]
      omega

mutual

/-- How the text of a condition is read. -/
theorem readingEnd_parse (condition : Condition) {values : Nat}
    (few : values ≤ Statement.valueBound) :
    ReadingEnd condition.height (values + condition.values.length)
      (condition.parse values) := by
  cases condition with
  | equals column value => exact .nextValue (equalsHeight_le column)
  | like column pattern => exact .nextValue (likeHeight_le column)
  | present column => exact .read (presentHeight_le column) few
  | and parts => exact readingEnd_parseJoined parts few
  | or parts => exact readingEnd_parseJoined parts few
  | not part =>
      apply (readingEnd_parse part few).bind (Nat.le_succ _) (Nat.le_refl _)
      exact fun _ fits => .raise fits

/-- How the texts of joined conditions are read. -/
theorem readingEnd_parseJoined (parts : List Condition) {values : Nat}
    (few : values ≤ Statement.valueBound) :
    ReadingEnd (joinHeights (heights parts)) (values + (valuesAll parts).length)
      (parseJoined values parts) := by
  cases parts with
  | nil => exact .read (by decide) few
  | cons part rest =>
      rw [valuesAll, List.length_append, ← Nat.add_assoc]
      apply (readingEnd_parse part few).bind (le_restHeight part.height rest)
        (Nat.le_add_right _ _)
      exact fun low fits => readingEnd_parseRest rest low fits

/-- How the texts of conditions are read that are joined with what was read. -/
theorem readingEnd_parseRest (parts : List Condition) {height values : Nat}
    (low : height ≤ Statement.heightBound)
    (few : values ≤ Statement.valueBound) :
    ReadingEnd (restHeight height parts) (values + (valuesAll parts).length)
      (parseRest ⟨height, values⟩ parts) := by
  cases parts with
  | nil => exact .read low few
  | cons part rest =>
      have above := le_restHeight (max height part.height + 1) rest
      rw [valuesAll, List.length_append, ← Nat.add_assoc, restHeight_cons]
      apply (readingEnd_parse part few).bind (by omega) (Nat.le_add_right _ _)
      intro _ fits
      apply (ReadingEnd.raise fits).bind above (Nat.le_add_right _ _)
      exact fun joined _ => readingEnd_parseRest rest joined fits

end

end Condition

namespace SearchPage

open Statement (ReadingEnd)

variable {page : SearchPage} {tables : Tables}

/-- The statement has as many values as it is given. -/
theorem length_positional_statement (dialect : Dialect) :
    (page.statement dialect).positional.length = page.valueCount := by
  rw [valueCount]
  cases after : page.after with
  | none => simp [statement, Statement.bindAll, after, Nat.add_comm 1]
  | some key => simp [statement, Statement.bindAll, after, Nat.add_comm 1]

theorem readingEnd_parseAfter (page : SearchPage)
    (low : max 3 page.condition.height + 1 ≤ Statement.heightBound)
    (few : 1 + page.condition.values.length ≤ Statement.valueBound) :
    ReadingEnd page.outerHeight (page.valueCount - 2)
      (page.parseAfter
        ⟨max 3 page.condition.height + 1,
            1 + page.condition.values.length⟩) := by
  rw [outerHeight, valueCount, parseAfter]
  split
  · apply (ReadingEnd.nextValue low).bind (Nat.le_succ _) (Nat.le_refl _)
    exact fun _ few => .raise few
  · exact .read low few

/-- How the text of the statement of a page is read. -/
theorem readingEnd_parse (page : SearchPage) :
    ReadingEnd page.outerHeight page.valueCount page.parse := by
  have enough : max 3 page.condition.height + 1 ≤ page.outerHeight := by
    rw [outerHeight]
    split <;> omega
  have counted : 1 + page.condition.values.length + 2 ≤ page.valueCount := by
    rw [valueCount]
    split <;> omega
  rw [parse]
  apply (ReadingEnd.nextValue (by decide)).bind (by omega) (by omega)
  intro _ few
  apply (page.condition.readingEnd_parse few).bind (by omega) (by omega)
  intro _ few
  apply (ReadingEnd.raise few).bind enough (by omega)
  intro low few
  rw [Nat.zero_add] at few ⊢
  apply (page.readingEnd_parseAfter low few).bind (Nat.le_refl _)
    (Nat.sub_le _ _)
  intro low _
  apply (ReadingEnd.nextValue low).bind (Nat.le_refl _) (by omega)
  intro low _
  have last := @ReadingEnd.nextValue _ (page.valueCount - 2 + 1) low
  rwa [Nat.add_assoc, Nat.sub_add_cancel (by omega)] at last

/-- Whether the statement of a page is within the limits that show in its
text. -/
structure IsPreparable (page : SearchPage) : Prop where
  height : page.height ≤ Statement.heightBound
  values : page.valueCount ≤ Statement.valueBound
  edges : page.edgesCount ≤ Statement.edgesBound

/-- A statement is prepared exactly if it is within these limits. -/
theorem prepare_eq_ok_iff : page.prepare = .ok ⟨⟩ ↔ page.IsPreparable := by
  have outer : page.outerHeight ≤ page.height := Nat.le_add_right _ _
  have readingEnd := page.readingEnd_parse
  rw [prepare]
  generalize page.parse = answer at readingEnd
  cases readingEnd with
  | read low few =>
      show (if _ then _ else if _ then _ else _ : Answer PUnit) = _ ↔ _
      split
      · rename_i many
        exact ⟨nofun, fun fits => absurd fits.edges (Nat.not_le_of_lt many)⟩
      · rename_i edges
        split
        · rename_i high
          exact ⟨nofun, fun fits => absurd fits.height (Nat.not_le_of_lt high)⟩
        · rename_i height
          exact iff_of_true rfl
            ⟨Nat.le_of_not_lt height, few, Nat.le_of_not_lt edges⟩
  | tooHigh high =>
      have tooHigh := Nat.lt_of_lt_of_le high outer
      exact ⟨nofun, fun fits => absurd fits.height (Nat.not_le_of_lt tooHigh)⟩
  | tooMany many =>
      exact ⟨nofun, fun fits => absurd fits.values (Nat.not_le_of_lt many)⟩

/-- A statement that is beyond the limit of the height alone is refused for
that. -/
theorem prepare_of_tooHigh (high : Statement.heightBound < page.height)
    (few : page.valueCount ≤ Statement.valueBound)
    (edges : page.edgesCount ≤ Statement.edgesBound) :
    page.prepare = .error Statement.heightError := by
  have readingEnd := page.readingEnd_parse
  rw [prepare]
  generalize page.parse = answer at readingEnd
  cases readingEnd with
  | read low few =>
      show (if _ then _ else if _ then _ else _ : Answer PUnit) = _
      rw [if_neg (Nat.not_lt_of_le edges), if_pos high]
  | tooHigh high => rfl
  | tooMany many => exact absurd few (Nat.not_le_of_lt many)

end SearchPage

namespace Condition

/-- Whether no pattern of a condition is too long. -/
def HasShortPatterns (condition : Condition) : Prop :=
  ∀ pattern ∈ condition.patterns, pattern.utf8ByteSize ≤ Statement.patternBound

instance (condition : Condition) : Decidable condition.HasShortPatterns :=
  inferInstanceAs (Decidable (∀ pattern ∈ condition.patterns, _ ≤ _))

mutual

/-- A pattern that is too long is not come to if there is none. -/
theorem not_meetsLong (condition : Condition) (tables : Tables)
    (row : EntityRow)
    (short : ∀ pattern ∈ condition.patterns, isLong pattern = false) :
    condition.meetsLong tables row = false := by
  cases condition with
  | equals column value => rfl
  | like column pattern =>
      rw [meetsLong, short pattern (List.mem_singleton_self pattern)]
      rfl
  | present column => rfl
  | and parts => exact not_meetsLongAll parts tables row short
  | or parts => exact not_meetsLongAny parts tables row short
  | not part => exact not_meetsLong part tables row short

theorem not_meetsLongAll (parts : List Condition) (tables : Tables)
    (row : EntityRow)
    (short : ∀ pattern ∈ patternsAll parts, isLong pattern = false) :
    meetsLongAll tables row parts = false := by
  cases parts with
  | nil => rfl
  | cons part rest =>
      have first := not_meetsLong part tables row fun pattern member =>
        short pattern (List.mem_append_left _ member)
      have others := not_meetsLongAll rest tables row fun pattern member =>
        short pattern (List.mem_append_right _ member)
      rw [meetsLongAll, first, others, Bool.and_false]
      rfl

theorem not_meetsLongAny (parts : List Condition) (tables : Tables)
    (row : EntityRow)
    (short : ∀ pattern ∈ patternsAll parts, isLong pattern = false) :
    meetsLongAny tables row parts = false := by
  cases parts with
  | nil => rfl
  | cons part rest =>
      have first := not_meetsLong part tables row fun pattern member =>
        short pattern (List.mem_append_left _ member)
      have others := not_meetsLongAny rest tables row fun pattern member =>
        short pattern (List.mem_append_right _ member)
      rw [meetsLongAny, first, others, Bool.and_false]
      rfl

end

end Condition

namespace SearchPage

variable {page : SearchPage} {tables : Tables}

/-- Whether a page is within all limits of the store. -/
structure IsWithinLimits (page : SearchPage) :
    Prop extends page.IsPreparable where
  patterns : page.condition.HasShortPatterns

/-- Within the limits of the store, a page is what is shown of its rows. -/
theorem rows_eq (within : page.IsWithinLimits) (tables : Tables) :
    page.rows tables = tables.projectAll (page.entityRows tables) := by
  have short : ∀ pattern ∈ page.condition.patterns,
      Condition.isLong pattern = false := by
    intro pattern member
    exact decide_eq_false (Nat.not_lt_of_le (within.patterns pattern member))
  have prepared := prepare_eq_ok_iff.mpr within.toIsPreparable
  have none : (page.visitedRows tables).any
      (fun row => page.condition.meetsLong tables row) = false := by
    rw [List.any_eq_false]
    intro row _
    rw [page.condition.not_meetsLong tables row short]
    decide
  rw [rows, prepared, none]
  rfl

/-- A page that is answered is what is shown of its rows. -/
theorem projectAll_of_rows {results : List ResultRow}
    (read : page.rows tables = .ok results) :
    tables.projectAll (page.entityRows tables) = .ok results := by
  obtain ⟨_, _, answered⟩ := Answer.bind_eq_ok_iff.mp read
  split at answered
  · cases answered
  · exact answered

/-- A page whose statement is refused is refused for the same reason. -/
theorem rows_of_prepare {error : DirectoryError}
    (refused : page.prepare = .error error) (tables : Tables) :
    page.rows tables = .error error := by
  rw [rows, refused]
  rfl

end SearchPage

end CachedDirectory
