import CachedDirectory.Error
import CachedDirectory.Sql.Value
import CachedDirectory.Text.Ascii

/-!
# Statements

A statement is a text with placeholders and the values bound to them so far.
Binding makes a new statement, so one text can be shared. A placeholder is `?`
or a colon with a name; between single quotes neither is one. Compiling a
statement turns every placeholder into `?` and lists the values in the order of
their placeholders.
-/

namespace CachedDirectory

/-- A piece of the text of a statement. -/
inductive Piece where
  /-- A character that stands for itself. -/
  | plain (c : Char)
  /-- The placeholder of the next value in order. -/
  | positional
  /-- The placeholder of the value bound to a name. -/
  | named (name : String)
deriving DecidableEq, Repr

namespace Piece

theorem length_dropWhile_le {alpha : Type} (keep : alpha → Bool)
    (items : List alpha) :
    (items.dropWhile keep).length ≤ items.length :=
  (List.dropWhile_suffix keep).length_le

/-- The pieces of a text; the flag tells whether a literal is open where the
text begins. -/
def scan : Bool → List Char → List Piece
  | _, [] => []
  | true, c :: rest => plain c :: scan (c != '\'') rest
  | false, c :: rest =>
      if c = '?' then
        positional :: scan false rest
      else if c = ':' ∧ rest.head?.any Text.isNameStart then
        named (String.ofList (rest.takeWhile Text.isNameChar)) ::
          scan false (rest.dropWhile Text.isNameChar)
      else
        plain c :: scan (c == '\'') rest
termination_by _ text => text.length
decreasing_by
  · exact Nat.lt_succ_self _
  · exact Nat.lt_succ_self _
  · exact Nat.lt_succ_of_le (length_dropWhile_le _ _)
  · exact Nat.lt_succ_self _

/-- The character that a piece becomes when it is compiled. -/
def compiled : Piece → Char
  | plain c => c
  | positional | named _ => '?'

end Piece

/-- A statement with its bindings. -/
structure Statement where
  text : String
  /-- The values bound by name, no name twice. -/
  named : List (String × SqlValue) := []
  /-- The values bound by position. -/
  positional : List SqlValue := []
deriving DecidableEq, Repr

/-- A statement whose placeholders are all `?`, with their values in order. -/
structure CompiledStatement where
  text : String
  values : List SqlValue
deriving DecidableEq, Repr

namespace Statement

/-- The statement with a value bound to a name. A later binding replaces an
earlier one. -/
def bind (statement : Statement) (name : String) (value : SqlValue) :
    Statement :=
  { statement with
    named :=
      (statement.named.filter fun (bound, _) => bound != name) ++
        [(name, value)] }

/-- The statement with further values bound by position. -/
def bindAll (statement : Statement) (values : List SqlValue) : Statement :=
  { statement with positional := statement.positional ++ values }

/-- The value bound to a name. -/
def value? (statement : Statement) (name : String) : Option SqlValue :=
  (statement.named.find? fun (bound, _) => bound == name).map (·.2)

/-- The value bound to a name, or nothing. -/
def value (statement : Statement) (name : String) : SqlValue :=
  (statement.value? name).getD .null

/-- The pieces of the text. -/
def pieces (statement : Statement) : List Piece :=
  Piece.scan false statement.text.toList

/-- The values of the placeholders from left to right, given the values left to
take by position. -/
def resolve (statement : Statement) :
    List SqlValue → List Piece → Answer (List SqlValue)
  | [], [] => .ok []
  | _ :: _, [] => .error (.internal "more positional values than placeholders")
  | values, .plain _ :: rest => resolve statement values rest
  | [], .positional :: _ =>
      .error (.internal "positional placeholder without a bound value")
  | value :: values, .positional :: rest => do
      let resolved ← resolve statement values rest
      return value :: resolved
  | values, .named name :: rest =>
      match statement.value? name with
      | some value => do
          let resolved ← resolve statement values rest
          return value :: resolved
      | none => .error (.internal ("no value bound for ':" ++ name ++ "'"))

/-- The statement with every placeholder turned into `?`. A placeholder without
a value and a value without a placeholder are errors. -/
def compile (statement : Statement) : Answer CompiledStatement := do
  let values ← statement.resolve statement.positional statement.pieces
  return ⟨String.ofList (statement.pieces.map Piece.compiled), values⟩

end Statement

end CachedDirectory
