import CachedDirectory.Filter.Condition
import CachedDirectory.Proofs.Compilation
import Mathlib.Algebra.GroupWithZero.Nat

/-!
# Texts of conditions

The text of a condition can be put anywhere in a statement: its literals are
closed, no name begins in it, and it has a question mark for each of its values.
That is kept when texts are put one after the other, so it is found piece by
piece, along the tree of the condition. What a statement is compiled to follows
from it.
-/

namespace CachedDirectory

namespace Piece

variable {earlier first second : List Char} {pieces others : List Piece}

/-- A reading goes on with that of a text behind, if no name can reach into
it. -/
theorem IsReading.append (reading : IsReading earlier first pieces)
    (unnamed : ':' ∉ first)
    (behind : IsReading (earlier ++ first) second others) :
    IsReading earlier (first ++ second) (pieces ++ others) := by
  induction pieces generalizing earlier first with
  | nil =>
      obtain rfl := isReading_nil_iff.mp reading
      simpa using behind
  | cons piece pieces inductionHypothesis =>
      obtain ⟨rest, rfl, fits, later⟩ := isReading_cons_iff.mp reading
      rw [List.mem_append, not_or] at unnamed
      rw [← List.append_assoc] at behind
      have goesOn := inductionHypothesis later unnamed.2 behind
      have stands : FitsBetween earlier piece (rest ++ second) := by
        cases piece with
        | plain c =>
            have noColon : c ≠ ':' := by
              simpa [written, eq_comm] using unnamed.1
            exact fits.imp_right fun outside =>
              ⟨outside.1, fun named => noColon named.1⟩
        | positional => exact fits
        | named name => simp [written] at unnamed
      rw [List.append_assoc, List.cons_append, isReading_cons_iff]
      exact ⟨rest ++ second, rfl, stands, goesOn⟩

theorem scan_append (closed : ¬WithinLiteral first) (unnamed : ':' ∉ first)
    (second : List Char) :
    scan false (first ++ second) = scan false first ++ scan false second := by
  have front : IsReading [] first (scan false first) := isReading_scan rfl
  have behind : IsReading ([] ++ first) second (scan false second) :=
    isReading_scan (decide_eq_false closed)
  exact (front.append unnamed behind).scan_eq

theorem named_notMem_scan (unnamed : ':' ∉ first) (name : String) :
    named name ∉ scan false first := by
  intro member
  have reading : IsReading [] first (scan false first) := isReading_scan rfl
  apply unnamed
  rw [← reading.writes]
  exact List.mem_flatMap.mpr ⟨named name, member, by simp [written]⟩

/-- A text without names is compiled as itself. -/
theorem map_compiled_scan (unnamed : ':' ∉ first) :
    (scan false first).map compiled = first := by
  have reading : IsReading [] first (scan false first) := isReading_scan rfl
  have same : ∀ piece ∈ scan false first, piece.rewritten = piece.written := by
    intro piece member
    cases piece with
    | named name => exact absurd member (named_notMem_scan unnamed name)
    | plain c => rfl
    | positional => rfl
  rw [map_compiled, List.flatMap_congr same, reading.writes]

/-- Whether a text can be followed by any other in a statement and has places
for so many values: all question marks of the text are places, and none of them
is within a literal. -/
structure Takes (text : String) (count : Nat) : Prop where
  closed : ¬WithinLiteral text.toList
  unnamed : ':' ∉ text.toList
  places : (scan false text.toList).count positional = count
  marks : text.toList.count '?' = count

instance (text : String) (count : Nat) : Decidable (Takes text count) :=
  decidable_of_iff
    (¬WithinLiteral text.toList ∧ ':' ∉ text.toList ∧
      (scan false text.toList).count positional = count ∧
        text.toList.count '?' = count)
    ⟨fun ⟨closed, unnamed, places, marks⟩ => ⟨closed, unnamed, places, marks⟩,
      fun takes => ⟨takes.closed, takes.unnamed, takes.places, takes.marks⟩⟩

theorem Takes.append {left right : String} {count more : Nat}
    (takes : Takes left count) (behind : Takes right more) :
    Takes (left ++ right) (count + more) := by
  have evenly := behind.closed
  have here := takes.closed
  rw [WithinLiteral] at evenly here
  constructor
  · rw [String.toList_append, withinLiteral_append_iff]
    omega
  · simp [takes.unnamed, behind.unnamed]
  · rw [String.toList_append, scan_append takes.closed takes.unnamed,
      List.count_append, takes.places, behind.places]
  · rw [String.toList_append, List.count_append, takes.marks, behind.marks]

theorem Takes.append_none {left right : String} (takes : Takes left 0)
    (behind : Takes right 0) :
    Takes (left ++ right) 0 :=
  takes.append behind

end Piece

namespace Statement

/-- Values in order are taken by as many question marks. -/
theorem resolve_inOrder {statement : Statement} {values : List SqlValue}
    {pieces : List Piece} (unnamed : ∀ name, .named name ∉ pieces)
    (enough : pieces.count .positional = values.length) :
    statement.resolve values pieces = .ok values := by
  induction pieces generalizing values with
  | nil =>
      have none : values = [] := List.length_eq_zero_iff.mp enough.symm
      rw [none]
      rfl
  | cons piece pieces inductionHypothesis =>
      have unnamedRest : ∀ name, .named name ∉ pieces :=
        fun name member => unnamed name (List.mem_cons_of_mem _ member)
      cases piece with
      | plain c =>
          rw [resolve_plain]
          exact inductionHypothesis unnamedRest (by simpa using enough)
      | named name => exact absurd List.mem_cons_self (unnamed name)
      | positional =>
          cases values with
          | nil => simp at enough
          | cons value values =>
              have left : pieces.count .positional = values.length := by
                simpa using enough
              have rest := inductionHypothesis unnamedRest left
              exact resolve_positional_iff.mpr
                ⟨value, values, values, rfl, rfl, rest⟩

/-- A text with places for the values that are bound in order is compiled as it
is. -/
theorem compile_of_takes {text : String} {values : List SqlValue}
    (takes : Piece.Takes text values.length) :
    (bindAll ⟨text, [], []⟩ values).compile = .ok ⟨text, values⟩ := by
  have whole :
      (bindAll ⟨text, [], []⟩ values).pieces = Piece.scan false text.toList :=
    rfl
  have bound : (bindAll ⟨text, [], []⟩ values).positional = values := rfl
  rw [compile_eq_ok_iff, whole, bound]
  refine ⟨?_, ?_⟩
  · exact resolve_inOrder (Piece.named_notMem_scan takes.unnamed) takes.places
  · rw [Piece.map_compiled_scan takes.unnamed, String.ofList_toList]

end Statement

namespace Condition

open Piece

theorem takes_cellName (column : Column) : Takes (cellName column) 0 := by
  cases column <;> decide +kernel

theorem takes_edgesOf (column : Column) : Takes (edgesOf column) 0 := by
  have edges : Takes "EXISTS (SELECT 1 FROM cache_memberships m " 0 := by
    decide +kernel
  have member :
      Takes
        "WHERE m.member_type = e.entity_type AND m.member_key = e.id_key"
        0 := by
    decide +kernel
  have group :
      Takes
        "EXISTS (SELECT 1 FROM cache_memberships m WHERE m.group_key = e.id_key"
        0 := by
    decide +kernel
  unfold edgesOf
  split
  · exact edges.append member
  · exact group

theorem takes_equalsText (column : Column) : Takes (equalsText column) 1 := by
  have cell := takes_cellName column
  have opens : Takes "(" 0 := by decide +kernel
  have guarded : Takes " IS NOT NULL AND " 0 := by decide +kernel
  have linked : Takes " AND " 0 := by decide +kernel
  have equal : Takes " = ?" 1 := by decide +kernel
  have closes : Takes " = ?)" 1 := by decide +kernel
  unfold equalsText
  cases column.kind with
  | discriminator | identifier => exact cell.append equal
  | text | boolean =>
      exact (((opens.append cell).append guarded).append cell).append closes
  | multiValued =>
      exact (((takes_edgesOf column).append linked).append cell).append closes

theorem takes_likeText (column : Column) : Takes (likeText column) 1 := by
  have cell := takes_cellName column
  have opens : Takes "(" 0 := by decide +kernel
  have guarded : Takes " IS NOT NULL AND " 0 := by decide +kernel
  have linked : Takes " AND " 0 := by decide +kernel
  have like : Takes " LIKE ? ESCAPE '!'" 1 := by decide +kernel
  have closes : Takes " LIKE ? ESCAPE '!')" 1 := by decide +kernel
  unfold likeText
  cases column.kind with
  | discriminator | identifier | boolean => exact cell.append like
  | text =>
      exact (((opens.append cell).append guarded).append cell).append closes
  | multiValued =>
      exact (((takes_edgesOf column).append linked).append cell).append closes

theorem takes_presentText (column : Column) : Takes (presentText column) 0 := by
  have always : Takes "1=1" 0 := by decide +kernel
  have filled : Takes " IS NOT NULL" 0 := by decide +kernel
  have closes : Takes ")" 0 := by decide +kernel
  unfold presentText
  cases column.kind with
  | discriminator | identifier => exact always
  | text | boolean => exact (takes_cellName column).append filled
  | multiValued => exact (takes_edgesOf column).append closes

theorem takes_intercalate {operator : String} (between : Takes operator 0)
    {texts : List String} {counts : List Nat}
    (each : List.Forall₂ Takes texts counts) :
    Takes (String.intercalate operator texts) counts.sum := by
  induction each with
  | nil =>
      have nothing : Takes "" 0 := by decide +kernel
      simpa using nothing
  | @cons text count texts counts first rest inductionHypothesis =>
      cases rest with
      | nil => simpa using first
      | cons second later =>
          rw [String.intercalate_cons_cons, List.sum_cons]
          exact (first.append between).append inductionHypothesis

/-- Joined texts take what all of them take. -/
theorem takes_joinTexts {operator empty : String} (between : Takes operator 0)
    (alone : Takes empty 0) {texts : List String} {counts : List Nat}
    (each : List.Forall₂ Takes texts counts) :
    Takes (joinTexts operator empty texts) counts.sum := by
  have opens : Takes "(" 0 := by decide +kernel
  have closes : Takes ")" 0 := by decide +kernel
  cases each with
  | nil => exact alone
  | cons first rest =>
      cases rest with
      | nil => simpa [joinTexts] using first
      | cons second later =>
          have several :=
            takes_intercalate between (.cons first (.cons second later))
          simpa [joinTexts] using (opens.append several).append closes

mutual

/-- The text of a condition has a place for each of its values. -/
theorem takes_text :
    ∀ condition : Condition, Takes condition.text condition.values.length
  | .equals column _ => takes_equalsText column
  | .like column _ => takes_likeText column
  | .present column => takes_presentText column
  | .and parts => by
      obtain ⟨counts, each, total⟩ := exists_counts parts
      rw [text, values, ← total]
      exact takes_joinTexts (by decide +kernel) (by decide +kernel) each
  | .or parts => by
      obtain ⟨counts, each, total⟩ := exists_counts parts
      rw [text, values, ← total]
      exact takes_joinTexts (by decide +kernel) (by decide +kernel) each
  | .not part => by
      have opens : Takes "NOT (" 0 := by decide +kernel
      have closes : Takes ")" 0 := by decide +kernel
      rw [text, values]
      simpa using (opens.append (takes_text part)).append closes

/-- So have the texts of the parts of a conjunction or a disjunction, one by
one. -/
theorem exists_counts : ∀ parts : List Condition,
    ∃ counts,
      List.Forall₂ Takes (texts parts) counts ∧
        counts.sum = (valuesAll parts).length
  | [] => ⟨[], .nil, rfl⟩
  | part :: rest => by
      obtain ⟨counts, each, total⟩ := exists_counts rest
      refine ⟨part.values.length :: counts, .cons (takes_text part) each, ?_⟩
      rw [List.sum_cons, total, valuesAll, List.length_append]

end

end Condition

end CachedDirectory
