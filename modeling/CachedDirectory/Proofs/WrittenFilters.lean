import CachedDirectory.Filter.Printer
import Mathlib.Data.List.Basic

/-!
# Reading the written form

The written form shows of a filter how its parts are joined, and of each
comparison what stands before the equality sign and the pieces between the
asterisks behind it. Values are escaped, so nothing in them is mistaken for a
mark. As long as no mark occurs before an equality sign, a text begins with at
most one written filter, and everything that the filter shows can be read back.
-/

namespace CachedDirectory

namespace Filter

/-! ## Escaped values -/

/-- The characters of a value in the written form. -/
def escaped (value : String) : List Char :=
  value.toList.flatMap escapeChar

/-- The character that a backslash and two digits stand for. -/
def ofDigits : Char → Char → Char
  | '2', 'a' => '*'
  | '2', '8' => '('
  | '2', '9' => ')'
  | '5', 'c' => '\\'
  | _, _ => '\x00'

/-- The text that was escaped. -/
def unescape : List Char → List Char
  | '\\' :: high :: low :: rest => ofDigits high low :: unescape rest
  | c :: rest => c :: unescape rest
  | [] => []

@[simp]
theorem toList_escape (value : String) :
    (escape value).toList = escaped value :=
  String.toList_ofList

/-- A character stands for itself or is written with digits that tell it. -/
theorem escapeChar_cases (c : Char) :
    (escapeChar c = [c] ∧ c ∉ ['*', '(', ')', '\\']) ∨
      ∃ high low, escapeChar c = ['\\', high, low] ∧ ofDigits high low = c ∧
        ∀ mark ∈ ['*', '(', ')'], mark ≠ high ∧ mark ≠ low := by
  unfold escapeChar
  split
  · exact .inr ⟨'2', 'a', rfl, rfl, by simp⟩
  · exact .inr ⟨'2', '8', rfl, rfl, by simp⟩
  · exact .inr ⟨'2', '9', rfl, rfl, by simp⟩
  · exact .inr ⟨'5', 'c', rfl, rfl, by simp⟩
  · exact .inr ⟨'0', '0', rfl, rfl, by simp⟩
  · refine .inl ⟨rfl, ?_⟩
    simp_all

theorem unescape_escapeChar_append (c : Char) (rest : List Char) :
    unescape (escapeChar c ++ rest) = c :: unescape rest := by
  obtain ⟨plain, ordinary⟩ | ⟨high, low, coded, told, -⟩ := escapeChar_cases c
  · have other : c ≠ '\\' := fun same => ordinary (by simp [same])
    rw [plain, List.singleton_append, unescape]
    exact fun _ _ _ same _ => other same
  · rw [coded, ← told]
    rfl

theorem unescape_flatMap_escapeChar (text : List Char) :
    unescape (text.flatMap escapeChar) = text := by
  induction text with
  | nil => rfl
  | cons c rest inductionHypothesis =>
      rw [List.flatMap_cons, unescape_escapeChar_append, inductionHypothesis]

/-- Different values are written differently. -/
theorem escaped_injective : Function.Injective escaped := by
  intro left right same
  have told := congrArg unescape same
  rw [escaped, escaped, unescape_flatMap_escapeChar,
    unescape_flatMap_escapeChar] at told
  exact String.toList_inj.mp told

/-- Neither an asterisk nor a parenthesis occurs in a written value. -/
theorem notMem_escaped {mark : Char} (isMark : mark ∈ ['*', '(', ')'])
    (value : String) :
    mark ∉ escaped value := by
  intro member
  obtain ⟨c, -, shown⟩ := List.mem_flatMap.mp member
  obtain ⟨plain, ordinary⟩ | ⟨high, low, coded, -, digits⟩ := escapeChar_cases c
  · rw [plain, List.mem_singleton] at shown
    subst shown
    exact ordinary (List.mem_append_left ['\\'] isMark)
  · have notBackslash : mark ≠ '\\' := by
      rintro rfl
      exact absurd isMark (by decide)
    rw [coded] at shown
    simp [notBackslash, digits mark isMark] at shown

end Filter

/-! ## What the written form shows -/

/-- What the written form shows of a filter: how its parts are joined, and of a
comparison the text before the equality sign and the pieces that follow, with
asterisks between them. -/
inductive WrittenFilter where
  | comparison (left first : String) (others : List String)
  | and (parts : List WrittenFilter)
  | or (parts : List WrittenFilter)
  | not (part : WrittenFilter)

namespace WrittenFilter

/-- Pieces with asterisks between them. -/
def piecesText (first : String) (others : List String) : List Char :=
  List.intercalate ['*'] ((first :: others).map Filter.escaped)

@[simp]
theorem piecesText_nil (first : String) :
    piecesText first [] = Filter.escaped first := by
  simp [piecesText]

@[simp]
theorem piecesText_cons (first second : String) (others : List String) :
    piecesText first (second :: others) =
      Filter.escaped first ++ '*' :: piecesText second others := by
  simp [piecesText, List.intercalate_cons_cons]

mutual

/-- The characters of a written filter. -/
def text : WrittenFilter → List Char
  | comparison left first others =>
      '(' :: left.toList ++ '=' :: piecesText first others ++ [')']
  | and parts => '(' :: '&' :: textAll parts ++ [')']
  | or parts => '(' :: '|' :: textAll parts ++ [')']
  | not part => '(' :: '!' :: text part ++ [')']

/-- The characters of written filters, one after the other. -/
def textAll : List WrittenFilter → List Char
  | [] => []
  | part :: rest => text part ++ textAll rest

end

end WrittenFilter

namespace Filter

mutual

/-- What the written form of a filter shows. -/
def written : Filter → WrittenFilter
  | equals attr value => .comparison attr value []
  | substring attr pattern =>
      .comparison attr (pattern.initial.getD "")
        (pattern.middle ++ [pattern.final.getD ""])
  | present attr => .comparison attr "" [""]
  | and parts => .and (writtenAll parts)
  | or parts => .or (writtenAll parts)
  | not part => .not (written part)
  | greaterOrEqual attr value => .comparison (attr ++ ">") value []
  | lessOrEqual attr value => .comparison (attr ++ "<") value []
  | approximate attr value => .comparison (attr ++ "~") value []
  | extensible rule attr value =>
      .comparison (attr.getD "" ++ (rule.map fun name => ":" ++ name).getD "" ++
        ":") value []

/-- What the written forms of filters show. -/
def writtenAll : List Filter → List WrittenFilter
  | [] => []
  | part :: rest => written part :: writtenAll rest

end

@[simp]
theorem toList_escapeOption (fragment : Option String) :
    (escapeOption fragment).toList = escaped (fragment.getD "") := by
  cases fragment with
  | none => rfl
  | some content => exact toList_escape content

theorem toList_writePattern (pattern : Pattern) :
    (writePattern pattern).toList =
      WrittenFilter.piecesText (pattern.initial.getD "")
        (pattern.middle ++ [pattern.final.getD ""]) := by
  obtain ⟨initial, middle, final⟩ := pattern
  simp only [writePattern, String.toList_append, toList_escapeOption]
  generalize initial.getD "" = first
  induction middle generalizing first with
  | nil => simp [String.join]
  | cons fragment rest inductionHypothesis =>
      have later := inductionHypothesis fragment
      rw [List.cons_append, WrittenFilter.piecesText_cons, ← later]
      simp

mutual

/-- The written form consists of what it shows. -/
theorem toList_write :
    ∀ filter : Filter, filter.write.toList = filter.written.text
  | equals attr value => by
      simp [write, written, WrittenFilter.text]
  | substring attr pattern => by
      simp [write, written, WrittenFilter.text, toList_writePattern]
  | present attr => by
      simp [write, written, WrittenFilter.text, escaped]
  | and parts => by
      simp [write, written, WrittenFilter.text, toList_writeAll parts]
  | or parts => by
      simp [write, written, WrittenFilter.text, toList_writeAll parts]
  | not part => by
      simp [write, written, WrittenFilter.text, toList_write part]
  | greaterOrEqual attr value => by
      simp [write, written, WrittenFilter.text]
  | lessOrEqual attr value => by
      simp [write, written, WrittenFilter.text]
  | approximate attr value => by
      simp [write, written, WrittenFilter.text]
  | extensible rule attr value => by
      cases rule <;> simp [write, written, WrittenFilter.text]

theorem toList_writeAll : ∀ filters : List Filter,
    (writeAll filters).toList = WrittenFilter.textAll (writtenAll filters)
  | [] => rfl
  | part :: rest => by
      rw [writeAll, String.toList_append, toList_write part,
        toList_writeAll rest, writtenAll, WrittenFilter.textAll]

end

end Filter

/-! ## Reading -/

theorem append_mark_inj {α : Type} {mark : α} {left right rest rest' : List α}
    (leftFree : mark ∉ left) (rightFree : mark ∉ right)
    (same : left ++ mark :: rest = right ++ mark :: rest') :
    left = right ∧ rest = rest' := by
  induction left generalizing right with
  | nil =>
      cases right with
      | nil => exact ⟨rfl, (List.cons.inj same).2⟩
      | cons c right =>
          obtain ⟨rfl, -⟩ := List.cons.inj same
          exact absurd List.mem_cons_self rightFree
  | cons c left inductionHypothesis =>
      cases right with
      | nil =>
          obtain ⟨rfl, -⟩ := List.cons.inj same
          exact absurd List.mem_cons_self leftFree
      | cons d right =>
          obtain ⟨rfl, later⟩ := List.cons.inj same
          obtain ⟨rfl, rests⟩ := inductionHypothesis
            (fun member => leftFree (List.mem_cons_of_mem _ member))
            (fun member => rightFree (List.mem_cons_of_mem _ member)) later
          exact ⟨rfl, rests⟩

namespace WrittenFilter

/-- The pieces are what stands between the asterisks. -/
theorem piecesText_inj {first first' : String} {others others' : List String}
    (same : piecesText first others = piecesText first' others') :
    first = first' ∧ others = others' := by
  have split (first : String) (others : List String) :
      (piecesText first others).splitOn '*' =
          (first :: others).map Filter.escaped := by
    refine List.splitOn_intercalate '*' ?_ (List.cons_ne_nil _ _)
    intro piece listed
    obtain ⟨value, -, rfl⟩ := List.mem_map.mp listed
    exact Filter.notMem_escaped (by decide) value
  have pieces := congrArg (List.splitOn '*') same
  rw [split, split] at pieces
  exact List.cons.inj (Filter.escaped_injective.list_map pieces)

theorem closing_notMem_piecesText (first : String) (others : List String) :
    ')' ∉ piecesText first others := by
  induction others generalizing first with
  | nil =>
      rw [piecesText_nil]
      exact Filter.notMem_escaped (by decide) first
  | cons second others inductionHypothesis =>
      rw [piecesText_cons, List.mem_append, List.mem_cons]
      rintro (inFirst | mark | later)
      · exact Filter.notMem_escaped (by decide) first inFirst
      · exact absurd mark (by decide)
      · exact inductionHypothesis second later

/-- Filters of which the text before an equality sign is not mistaken for
something else. -/
inductive Readable : WrittenFilter → Prop
  | comparison {left first : String} {others : List String}
      (plain : ∀ mark ∈ ['=', '&', '|', '!'], mark ∉ left.toList) :
      Readable (comparison left first others)
  | and {parts : List WrittenFilter} (each : ∀ part ∈ parts, Readable part) :
      Readable (and parts)
  | or {parts : List WrittenFilter} (each : ∀ part ∈ parts, Readable part) :
      Readable (or parts)
  | not {part : WrittenFilter} (inner : Readable part) : Readable (not part)

/-- The mark of what joins the parts of a filter. -/
def operator? : WrittenFilter → Option Char
  | comparison _ _ _ => none
  | and _ => some '&'
  | or _ => some '|'
  | not _ => some '!'

/-- The mark that the text of a filter has behind its parenthesis. -/
def operatorAt? : List Char → Option Char
  | _ :: c :: _ => if c ∈ ['&', '|', '!'] then some c else none
  | _ => none

theorem operatorAt?_text {filter : WrittenFilter} (readable : Readable filter)
    (rest : List Char) :
    operatorAt? (filter.text ++ rest) = filter.operator? := by
  cases readable with
  | @comparison left first others plain =>
      rw [text, operator?]
      cases chars : left.toList with
      | nil => rfl
      | cons c more =>
        refine if_neg fun isOperator => ?_
        exact plain c (List.mem_cons_of_mem _ isOperator)
          (chars ▸ List.mem_cons_self)
  | and each => rw [text]; rfl
  | or each => rw [text]; rfl
  | not inner => rw [text]; rfl

/-- Filters that begin the same text join their parts in the same way. -/
theorem operator?_eq_of_text {left right : WrittenFilter}
    (leftReadable : Readable left) (rightReadable : Readable right)
    {rest rest' : List Char} (same : left.text ++ rest = right.text ++ rest') :
    left.operator? = right.operator? := by
  rw [← operatorAt?_text leftReadable rest, same,
    operatorAt?_text rightReadable]

theorem text_eq_cons (filter : WrittenFilter) :
    ∃ inside, filter.text = '(' :: inside := by
  cases filter <;> rw [text] <;> exact ⟨_, rfl⟩

theorem textAll_append_inj {left right : List WrittenFilter}
    (parts :
      ∀ part ∈ left,
        ∀ (other : WrittenFilter) (rest rest' : List Char),
          Readable other → part.text ++ rest = other.text ++ rest' →
            part = other ∧ rest = rest')
    (readable : ∀ part ∈ right, Readable part) {rest rest' : List Char}
    (same : textAll left ++ ')' :: rest = textAll right ++ ')' :: rest') :
    left = right ∧ rest = rest' := by
  induction left generalizing right with
  | nil =>
      cases right with
      | nil => exact ⟨rfl, (List.cons.inj same).2⟩
      | cons other right =>
          obtain ⟨inside, text⟩ := other.text_eq_cons
          rw [textAll, textAll, text] at same
          cases same
  | cons part left inductionHypothesis =>
      cases right with
      | nil =>
          obtain ⟨inside, text⟩ := part.text_eq_cons
          rw [textAll, textAll, text] at same
          cases same
      | cons other right =>
          rw [textAll, textAll, List.append_assoc, List.append_assoc] at same
          obtain ⟨rfl, later⟩ := parts part List.mem_cons_self other _ _
            (readable other List.mem_cons_self) same
          obtain ⟨rfl, rests⟩ := inductionHypothesis
            (fun part member => parts part (List.mem_cons_of_mem _ member))
            (fun part member => readable part (List.mem_cons_of_mem _ member))
              later
          exact ⟨rfl, rests⟩

/-- A text begins with at most one filter, and what follows the filter is told
too. -/
theorem text_append_inj {left : WrittenFilter} (leftReadable : Readable left) :
    ∀ (right : WrittenFilter) (rest rest' : List Char), Readable right →
      left.text ++ rest = right.text ++ rest' →
          left = right ∧ rest = rest' := by
  induction leftReadable with
  | comparison plain =>
      intro right rest rest' rightReadable same
      have operators :=
        operator?_eq_of_text (.comparison plain) rightReadable same
      cases rightReadable with
      | comparison otherPlain =>
          simp only [text, List.cons_append, List.append_assoc] at same
          obtain ⟨lefts, values⟩ := append_mark_inj (plain '=' (by decide))
            (otherPlain '=' (by decide)) (List.cons.inj same).2
          obtain ⟨pieces, rests⟩ :=
            append_mark_inj (closing_notMem_piecesText _ _)
            (closing_notMem_piecesText _ _) values
          obtain ⟨rfl, rfl⟩ := piecesText_inj pieces
          obtain rfl := String.toList_inj.mp lefts
          exact ⟨rfl, rests⟩
      | and | or | not => cases operators
  | and each inductionHypothesis =>
      intro right rest rest' rightReadable same
      have operators := operator?_eq_of_text (.and each) rightReadable same
      cases rightReadable with
      | and otherEach =>
          simp only [text, List.cons_append, List.append_assoc] at same
          obtain ⟨rfl, rests⟩ :=
            textAll_append_inj inductionHypothesis otherEach
            (List.cons.inj (List.cons.inj same).2).2
          exact ⟨rfl, rests⟩
      | comparison | or | not => simp [operator?] at operators
  | or each inductionHypothesis =>
      intro right rest rest' rightReadable same
      have operators := operator?_eq_of_text (.or each) rightReadable same
      cases rightReadable with
      | or otherEach =>
          simp only [text, List.cons_append, List.append_assoc] at same
          obtain ⟨rfl, rests⟩ :=
            textAll_append_inj inductionHypothesis otherEach
            (List.cons.inj (List.cons.inj same).2).2
          exact ⟨rfl, rests⟩
      | comparison | and | not => simp [operator?] at operators
  | not inner inductionHypothesis =>
      intro right rest rest' rightReadable same
      have operators := operator?_eq_of_text (.not inner) rightReadable same
      cases rightReadable with
      | not otherInner =>
          simp only [text, List.cons_append, List.append_assoc] at same
          obtain ⟨rfl, closings⟩ := inductionHypothesis _ _ _ otherInner
            (List.cons.inj (List.cons.inj same).2).2
          exact ⟨rfl, (List.cons.inj closings).2⟩
      | comparison | and | or => simp [operator?] at operators

end WrittenFilter

end CachedDirectory
