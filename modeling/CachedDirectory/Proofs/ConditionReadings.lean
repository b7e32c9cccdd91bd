import CachedDirectory.Entity.Column
import CachedDirectory.Store.Selection
import Mathlib.Data.List.Forall2

/-!
# What the text of a condition says

The text of a condition can be read in one way only, and it takes the values at
its places in turn. So conditions of the same text and the same values hold of
the same rows, whatever filters they were made of.
-/

namespace CachedDirectory

namespace Truth

@[simp]
theorem and_yes (truth : Truth) : truth.and yes = truth := by
  cases truth <;> rfl

@[simp]
theorem or_no (truth : Truth) : truth.or no = truth := by
  cases truth <;> rfl

end Truth

/-- What is said of a row in one piece, with a place for at most one value. -/
inductive Atom where
  | always
  | never
  | equal (column : Column)
  | like (column : Column)
  | filled (column : Column)
deriving DecidableEq, Repr

namespace Atom

/-- Everything that is said in one piece. -/
def all : List Atom :=
  [always, never] ++ Column.all.map equal ++ Column.all.map like ++
    Column.all.map filled

/-- A comparison of a cell, or of the cells of the edges that a column comes
from. -/
def comparedText (column : Column) (comparison : List Char) : List Char :=
  let cell := (Condition.cellName column).toList
  match column.kind with
  | .multiValued =>
      (Condition.edgesOf column).toList ++
        (" AND ".toList ++ (cell ++ (comparison ++ [')'])))
  | .discriminator | .identifier | .text | .boolean => cell ++ comparison

/-- How it is said. -/
def text : Atom → List Char
  | always => "1=1".toList
  | never => "1=0".toList
  | equal column => comparedText column " = ?".toList
  | like column => comparedText column " LIKE ? ESCAPE '!'".toList
  | filled column =>
      match column.kind with
      | .multiValued => (Condition.edgesOf column).toList ++ [')']
      | .discriminator | .identifier | .text | .boolean =>
          (Condition.cellName column).toList ++ " IS NOT NULL".toList

/-- Whether it is true of a row, given the values for what is left of the text;
the values behind it are left. -/
def read (tables : Tables) (row : EntityRow) :
    Atom → List SqlValue → Truth × List SqlValue
  | always, values => (.yes, values)
  | never, values => (.no, values)
  | equal column, value :: values =>
      match column.kind with
      | .boolean => (row.active.equals (.ofValue value), values)
      | .multiValued =>
          (tables.someKey row column fun key => key.equals value.asText, values)
      | _ => ((row.comparable column).equals value.asText, values)
  | like column, .text pattern :: values =>
      match column.kind with
      | .multiValued =>
          (tables.someKey row column fun key => key.like pattern, values)
      | _ => ((row.comparable column).like pattern, values)
  | filled column, values =>
      match column.kind with
      | .boolean => (row.active.isPresent, values)
      | .multiValued => (tables.someKey row column fun _ => .yes, values)
      | _ => ((row.comparable column).isPresent, values)
  | _, values => (.unknown, values)

theorem mem_all (atom : Atom) : atom ∈ all := by
  have each (column : Column) : column ∈ Column.all := by
    cases column <;> decide
  cases atom <;> simp [all, each]

/-- Nothing said in one piece begins something else. -/
theorem eq_of_begins {left right : Atom}
    (begins : left.text <+: right.text) : left = right := by
  have every : ∀ left ∈ all, ∀ right ∈ all,
      left.text.isPrefixOf right.text = true → left = right := by
    decide +kernel
  exact every left left.mem_all right right.mem_all
    (List.isPrefixOf_iff_prefix.mpr begins)

/-- A text begins with at most one of them. -/
theorem text_append_inj {left right : Atom} {rest rest' : List Char}
    (same : left.text ++ rest = right.text ++ rest') :
    left = right ∧ rest = rest' := by
  have inSame : left.text <+: right.text ++ rest' :=
    ⟨rest, same⟩
  have equal : left = right := by
    obtain begins | begins := List.prefix_or_prefix_of_prefix inSame
      (List.prefix_append right.text rest')
    · exact eq_of_begins begins
    · exact (eq_of_begins begins).symm
  subst equal
  exact ⟨rfl, List.append_cancel_left same⟩

/-- None of them begins like a junction or a negation. -/
theorem text_append_ne (atom : Atom) {c : Char} (mark : c ∈ ['(', 'N'])
    {rest rest' : List Char} : c :: rest ≠ atom.text ++ rest' := by
  have every : ∀ atom ∈ all,
      atom.text.head?.any fun c => c ∉ ['(', 'N'] := by
    decide +kernel
  have fits := every atom atom.mem_all
  intro same
  cases written : atom.text with
  | nil => simp [written] at fits
  | cons first inside =>
      rw [written, List.cons_append] at same
      obtain ⟨rfl, -⟩ := List.cons.inj same
      simp [written] at fits
      simp [fits] at mark

end Atom

/-- What the text of a condition says: what is said in one piece, two or more
parts joined by a conjunction or a disjunction, and negations. -/
inductive Phrase where
  | lone (atom : Atom)
  | joined (isAnd : Bool) (first second : Phrase) (rest : List Phrase)
  | not (part : Phrase)

namespace Phrase

/-- What a negation begins with. -/
def negation : List Char :=
  ['N', 'O', 'T', ' ', '(']

/-- What stands between parts. -/
def operator (isAnd : Bool) : List Char :=
  if isAnd then " AND ".toList else " OR ".toList

mutual

/-- How it is said. -/
def text : Phrase → List Char
  | lone atom => atom.text
  | joined isAnd first second rest =>
      '(' :: (text first ++ (operator isAnd ++ (text second ++
        textRest isAnd rest)))
  | not part => negation ++ (text part ++ [')'])

/-- How further parts are said, up to the end of the junction. -/
def textRest (isAnd : Bool) : List Phrase → List Char
  | [] => [')']
  | part :: rest => operator isAnd ++ (text part ++ textRest isAnd rest)

end

/-- The truth value of two parts joined. -/
def combine (isAnd : Bool) (left right : Truth) : Truth :=
  if isAnd then left.and right else left.or right

/-- The truth value of no parts. -/
def nothing (isAnd : Bool) : Truth :=
  if isAnd then .yes else .no

section Reading

variable (tables : Tables) (row : EntityRow)

mutual

/-- Whether it is true of a row, given the values for what is left of the text;
the values behind it are left. -/
def read : Phrase → List SqlValue → Truth × List SqlValue
  | lone atom, values => atom.read tables row values
  | joined isAnd first second rest, values =>
      let (here, values) := read first values
      let (there, values) := read second values
      let (later, values) := readRest isAnd rest values
      (combine isAnd here (combine isAnd there later), values)
  | not part, values =>
      let (truth, values) := read part values
      (truth.not, values)

/-- Whether all further parts, or any of them, are true of a row. -/
def readRest (isAnd : Bool) :
    List Phrase → List SqlValue → Truth × List SqlValue
  | [], values => (nothing isAnd, values)
  | part :: rest, values =>
      let (here, values) := read part values
      let (later, values) := readRest isAnd rest values
      (combine isAnd here later, values)

end

end Reading

/-- Parts joined; one stands alone, none is a constant. -/
def join (isAnd : Bool) : List Phrase → Phrase
  | [] => lone (if isAnd then .always else .never)
  | [part] => part
  | first :: second :: rest => joined isAnd first second rest

@[simp]
theorem combine_nothing (isAnd : Bool) (truth : Truth) :
    combine isAnd truth (nothing isAnd) = truth := by
  cases isAnd
  · exact Truth.or_no truth
  · exact Truth.and_yes truth

/-- Joined parts are read one by one, however many they are. -/
theorem read_join (tables : Tables) (row : EntityRow) (isAnd : Bool)
    (parts : List Phrase) (values : List SqlValue) :
    (join isAnd parts).read tables row values =
      readRest tables row isAnd parts values := by
  match parts with
  | [] => cases isAnd <;> rfl
  | [part] => simp [join, readRest]
  | first :: second :: rest => rfl

theorem operator_append_inj {left right : Bool} {rest rest' : List Char}
    (same : operator left ++ rest = operator right ++ rest') :
    left = right ∧ rest = rest' := by
  cases left <;> cases right <;> simp_all [operator]

/-- The end of a junction is not taken for a further part. -/
theorem operator_append_ne (isAnd : Bool) {rest rest' : List Char} :
    ')' :: rest ≠ operator isAnd ++ rest' := by
  cases isAnd <;> simp [operator]

mutual

/-- A text begins with at most one phrase, and what follows the phrase is told
too. -/
theorem text_append_inj (left right : Phrase) {rest rest' : List Char}
    (same : left.text ++ rest = right.text ++ rest') :
    left = right ∧ rest = rest' := by
  cases left with
  | lone atom =>
      simp only [text] at same
      cases right with
      | lone other =>
          simp only [text] at same
          obtain ⟨rfl, rests⟩ := Atom.text_append_inj same
          exact ⟨rfl, rests⟩
      | joined | not =>
          simp only [text] at same
          exact absurd same.symm (atom.text_append_ne (by decide))
  | joined isAnd first second others =>
      cases right with
      | lone other =>
          simp only [text] at same
          exact absurd same (other.text_append_ne (by decide))
      | joined isAnd' first' second' others' =>
          simp only [text, List.cons_append, List.append_assoc] at same
          have inside := (List.cons.inj same).2
          obtain ⟨rfl, joins⟩ := text_append_inj first first' inside
          obtain ⟨rfl, behind⟩ := operator_append_inj joins
          obtain ⟨rfl, further⟩ := text_append_inj second second' behind
          obtain ⟨rfl, rests⟩ :=
            textRest_append_inj isAnd others others' further
          exact ⟨rfl, rests⟩
      | not part => simp [text, negation] at same
  | not part =>
      cases right with
      | lone other =>
          simp only [text] at same
          exact absurd same (other.text_append_ne (by decide))
      | joined => simp [text, negation] at same
      | not part' =>
          simp only [text, List.append_assoc] at same
          have inside := List.append_cancel_left same
          obtain ⟨rfl, closings⟩ := text_append_inj part part' inside
          exact ⟨rfl, (List.cons.inj closings).2⟩

/-- So it is with further parts. -/
theorem textRest_append_inj (isAnd : Bool) (left right : List Phrase)
    {rest rest' : List Char}
    (same : textRest isAnd left ++ rest = textRest isAnd right ++ rest') :
    left = right ∧ rest = rest' := by
  cases left with
  | nil =>
      cases right with
      | nil => exact ⟨rfl, (List.cons.inj same).2⟩
      | cons other right =>
          simp only [textRest, List.append_assoc] at same
          exact absurd same (operator_append_ne isAnd)
  | cons part left =>
      cases right with
      | nil =>
          simp only [textRest, List.append_assoc] at same
          exact absurd same.symm (operator_append_ne isAnd)
      | cons other right =>
          simp only [textRest, List.append_assoc] at same
          have behind := List.append_cancel_left same
          obtain ⟨rfl, further⟩ := text_append_inj part other behind
          obtain ⟨rfl, rests⟩ := textRest_append_inj isAnd left right further
          exact ⟨rfl, rests⟩

end

end Phrase

namespace Condition

/-- A comparison behind the guard of its cell. -/
def guarded (column : Column) (comparison : Atom) : Phrase :=
  .joined true (.lone (.filled column)) (.lone comparison) []

/-- What an equality says. -/
def equalsPhrase (column : Column) : Phrase :=
  match column.kind with
  | .text | .boolean => guarded column (.equal column)
  | .discriminator | .identifier | .multiValued => .lone (.equal column)

/-- What a comparison with a pattern says. -/
def likePhrase (column : Column) : Phrase :=
  match column.kind with
  | .text => guarded column (.like column)
  | .discriminator | .identifier | .boolean | .multiValued =>
      .lone (.like column)

/-- What is said if a column has to have a value. -/
def presentPhrase (column : Column) : Phrase :=
  match column.kind with
  | .discriminator | .identifier => .lone .always
  | .text | .boolean | .multiValued => .lone (.filled column)

mutual

/-- What a condition says. -/
def phrase : Condition → Phrase
  | equals column _ => equalsPhrase column
  | like column _ => likePhrase column
  | present column => presentPhrase column
  | and parts => .join true (phrases parts)
  | or parts => .join false (phrases parts)
  | not part => .not (phrase part)

/-- What the parts of a conjunction or a disjunction say. -/
def phrases : List Condition → List Phrase
  | [] => []
  | part :: rest => phrase part :: phrases rest

end

/-! ## The text is that of what is said -/

/-- Whether a text is that of a phrase. -/
def Tells (text : String) (phrase : Phrase) : Prop :=
  phrase.text = text.toList

theorem tells_equalsText (column : Column) :
    Tells (equalsText column) (equalsPhrase column) := by
  unfold Tells equalsText equalsPhrase
  cases kind : column.kind <;>
    simp [kind, guarded, Phrase.text, Phrase.textRest, Phrase.operator,
      Atom.text, Atom.comparedText]

theorem tells_likeText (column : Column) :
    Tells (likeText column) (likePhrase column) := by
  unfold Tells likeText likePhrase
  cases kind : column.kind <;>
    simp [kind, guarded, Phrase.text, Phrase.textRest, Phrase.operator,
      Atom.text, Atom.comparedText]

theorem tells_presentText (column : Column) :
    Tells (presentText column) (presentPhrase column) := by
  unfold Tells presentText presentPhrase
  cases kind : column.kind <;> simp [kind, Phrase.text, Atom.text]

section Joined

variable {isAnd : Bool} {operator : String} {texts : List String}
  {phrases : List Phrase}

theorem toList_intercalate (text : String)
    (between : operator.toList = Phrase.operator isAnd)
    (each : List.Forall₂ Tells texts phrases) :
    (String.intercalate operator (text :: texts)).toList ++ [')'] =
      text.toList ++ Phrase.textRest isAnd phrases := by
  induction each generalizing text with
  | nil => simp [Phrase.textRest]
  | @cons next phrase texts phrases first _ inductionHypothesis =>
      rw [String.intercalate_cons_cons, Phrase.textRest, first]
      simp only [String.toList_append, List.append_assoc]
      rw [inductionHypothesis, between]

/-- Joined texts are the text of the joined phrases. -/
theorem tells_joinTexts {empty : String}
    (between : operator.toList = Phrase.operator isAnd)
    (alone : Tells empty (.join isAnd []))
    (each : List.Forall₂ Tells texts phrases) :
    Tells (joinTexts operator empty texts) (.join isAnd phrases) := by
  cases each with
  | nil => exact alone
  | cons first rest =>
      cases rest with
      | nil => exact first
      | @cons text phrase texts phrases second further =>
          have behind := toList_intercalate text between further
          rw [Tells, Phrase.join, Phrase.text, first, second, ← behind]
          simp [joinTexts, String.intercalate_cons_cons, between]

end Joined

mutual

/-- The text of a condition is that of what it says. -/
theorem tells_text (condition : Condition) :
    Tells condition.text condition.phrase := by
  cases condition with
  | equals column value => exact tells_equalsText column
  | like column pattern => exact tells_likeText column
  | present column => exact tells_presentText column
  | and parts =>
      exact tells_joinTexts rfl rfl (tells_texts parts)
  | or parts =>
      exact tells_joinTexts rfl rfl (tells_texts parts)
  | not part =>
      have inside := tells_text part
      rw [Tells, text, phrase, Phrase.text, inside]
      simp [Phrase.negation]

/-- So it is with the texts of parts, one by one. -/
theorem tells_texts (parts : List Condition) :
    List.Forall₂ Tells (texts parts) (phrases parts) := by
  cases parts with
  | nil => exact .nil
  | cons part rest => exact .cons (tells_text part) (tells_texts rest)

end

/-! ## What is said is what holds -/

section Holding

variable (tables : Tables) (row : EntityRow)

theorem read_equalsPhrase (column : Column) (value : SqlValue)
    (rest : List SqlValue) :
    (equalsPhrase column).read tables row (value :: rest) =
      (equalsHolds tables row column value, rest) := by
  unfold equalsPhrase equalsHolds
  cases column <;> simp [Column.kind, guarded, Phrase.read, Phrase.readRest,
    Atom.read, Phrase.combine, Phrase.nothing]

theorem read_likePhrase (column : Column) (pattern : String)
    (rest : List SqlValue) :
    (likePhrase column).read tables row (.text pattern :: rest) =
      (likeHolds tables row column pattern, rest) := by
  unfold likePhrase likeHolds
  cases column <;> simp [Column.kind, guarded, Phrase.read, Phrase.readRest,
    Atom.read, Phrase.combine, Phrase.nothing]

theorem read_presentPhrase (column : Column) (rest : List SqlValue) :
    (presentPhrase column).read tables row rest =
      (presentHolds tables row column, rest) := by
  unfold presentPhrase presentHolds
  cases column <;> simp [Column.kind, Phrase.read, Atom.read]

mutual

/-- Reading what a condition says, with its values at its places, tells whether
it holds. -/
theorem read_phrase (condition : Condition) (rest : List SqlValue) :
    condition.phrase.read tables row (condition.values ++ rest) =
      (condition.holds tables row, rest) := by
  cases condition with
  | equals column value => exact read_equalsPhrase tables row column value rest
  | like column pattern => exact read_likePhrase tables row column pattern rest
  | present column => exact read_presentPhrase tables row column rest
  | and parts =>
      rw [phrase, values, holds, Phrase.read_join]
      exact readRest_phrases true parts rest
  | or parts =>
      rw [phrase, values, holds, Phrase.read_join]
      exact readRest_phrases false parts rest
  | not part => rw [phrase, values, holds, Phrase.read, read_phrase part rest]

/-- So it is with the parts of a conjunction or a disjunction. -/
theorem readRest_phrases (isAnd : Bool) (parts : List Condition)
    (rest : List SqlValue) :
    Phrase.readRest tables row isAnd (phrases parts)
        (valuesAll parts ++ rest) =
      (if isAnd then holdsAll tables row parts
        else holdsAny tables row parts, rest) := by
  cases parts with
  | nil => cases isAnd <;> rfl
  | cons part further =>
      have here := read_phrase part (valuesAll further ++ rest)
      have later := readRest_phrases isAnd further rest
      rw [phrases, valuesAll, List.append_assoc]
      simp only [Phrase.readRest, here, later]
      cases isAnd <;> rfl

end

end Holding

/-- The text of a condition and its values settle of which rows it holds. -/
theorem holds_eq_of_text_eq {left right : Condition}
    (text : left.text = right.text) (values : left.values = right.values)
    (tables : Tables) (row : EntityRow) :
    left.holds tables row = right.holds tables row := by
  have said : left.phrase.text ++ [] = right.phrase.text ++ [] := by
    rw [tells_text left, tells_text right, text]
  obtain ⟨phrase, -⟩ := Phrase.text_append_inj left.phrase right.phrase said
  have readLeft := read_phrase tables row left []
  have readRight := read_phrase tables row right []
  rw [phrase, values, readRight] at readLeft
  exact (Prod.mk.inj readLeft).1.symm

end Condition

end CachedDirectory
