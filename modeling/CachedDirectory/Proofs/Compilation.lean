import CachedDirectory.Proofs.Actions
import CachedDirectory.Proofs.StatementReadings
import Mathlib.Data.List.Induction

/-!
# Compilation of statements

A statement comes about from its text by calls that bind values, to a name or in
order. Compiling it succeeds when each name in its text was bound and the values
in order are as many as their placeholders. The compiled text differs from the
text only in its names, each of which became a question mark; its values are
those of the placeholders from left to right. What was compiled can be compiled
again, and nothing changes.
-/

namespace CachedDirectory

open Text

/-- A call that binds values. -/
inductive Binding where
  | toName (name : String) (value : SqlValue)
  | inOrder (values : List SqlValue)
deriving DecidableEq, Repr

namespace Binding

/-- The value that a call binds to a name. -/
def valueFor? (name : String) : Binding → Option SqlValue
  | toName bound value => if bound = name then some value else none
  | inOrder _ => none

/-- The values that a call binds in order. -/
def orderedValues : Binding → List SqlValue
  | toName _ _ => []
  | inOrder values => values

/-- The value that was bound last to a name. -/
def latest? (name : String) (bindings : List Binding) : Option SqlValue :=
  (bindings.filterMap (valueFor? name)).getLast?

/-- All values that were bound in order. -/
def ordered (bindings : List Binding) : List SqlValue :=
  bindings.flatMap orderedValues

variable {binding : Binding} {bindings : List Binding} {name bound : String}

theorem valueFor?_eq_some_iff {value : SqlValue} :
    valueFor? name binding = some value ↔ binding = toName name value := by
  cases binding with
  | inOrder values => simp [valueFor?]
  | toName bound other =>
      by_cases same : bound = name <;> simp [valueFor?, same]

theorem exists_latest?_iff :
    (∃ value, latest? name bindings = some value) ↔ ∃ value,
        toName name value ∈ bindings := by
  have bound (value : SqlValue) :
      value ∈ bindings.filterMap (valueFor? name) ↔
          toName name value ∈ bindings := by
    simp [List.mem_filterMap, valueFor?_eq_some_iff]
  rw [← Option.isSome_iff_exists, latest?, List.getLast?_isSome, ←
    exists_congr bound]
  exact ⟨List.exists_mem_of_ne_nil _,
    fun ⟨_, member⟩ => List.ne_nil_of_mem member⟩

/-- A later call for the same name goes before all earlier ones. -/
theorem latest?_snoc_toName (value : SqlValue) :
    latest? name (bindings ++ [toName bound value]) =
      if bound = name then some value else latest? name bindings := by
  by_cases same : bound = name <;> simp [latest?, valueFor?, same]

theorem latest?_snoc_inOrder (values : List SqlValue) :
    latest? name (bindings ++ [inOrder values]) = latest? name bindings := by
  simp [latest?, valueFor?]

theorem ordered_snoc :
    ordered (bindings ++ [binding]) =
        ordered bindings ++ binding.orderedValues := by
  simp [ordered]

end Binding

namespace Piece

/-- The characters as which a piece is compiled. -/
def rewritten : Piece → List Char
  | named _ => ['?']
  | piece => piece.written

/-- Whether a piece is the place of a value. -/
def isPlaceholder : Piece → Bool
  | plain _ => false
  | positional | named _ => true

variable (byName : String → Option SqlValue) (inOrder : List SqlValue)

/-- The value for a placeholder after other pieces. -/
def supplied (before : List Piece) : Piece → Option SqlValue
  | plain _ => none
  | positional => inOrder[before.count positional]?
  | named name => byName name

/-- Whether values are those of the placeholders from left to right. -/
structure Supplies (pieces : List Piece) (values : List SqlValue) : Prop where
  length : values.length = pieces.countP isPlaceholder
  each :
    ∀ before piece after,
      pieces = before ++ piece :: after → piece.isPlaceholder = true →
    values[before.countP isPlaceholder]? = piece.supplied byName inOrder before

variable {byName inOrder} {pieces : List Piece} {values : List SqlValue}

theorem supplies_nil : Supplies byName inOrder [] [] := by
  refine ⟨rfl, ?_⟩
  intro before piece after split
  simp at split

theorem Supplies.plain (supplies : Supplies byName inOrder pieces values)
    (c : Char) :
    Supplies byName inOrder (plain c :: pieces) values := by
  refine ⟨by rw [supplies.length]; simp [isPlaceholder], ?_⟩
  intro before piece after split placeholder
  cases before with
  | nil =>
      cases split
      cases placeholder
  | cons first before =>
      obtain ⟨rfl, others⟩ := List.cons.inj split
      have later := supplies.each before piece after others placeholder
      cases piece <;> simpa [supplied, isPlaceholder, List.countP_cons]
        using later

theorem Supplies.placeholder {first : Piece} {value : SqlValue}
    {later : List SqlValue} (supplies : Supplies byName later pieces values)
    (holds : first.isPlaceholder = true)
    (here : first.supplied byName inOrder [] = some value)
    (shifted :
      ∀ before piece,
        supplied byName inOrder (first :: before) piece =
          supplied byName later before piece) :
    Supplies byName inOrder (first :: pieces) (value :: values) := by
  refine ⟨by rw [List.length_cons, List.countP_cons_of_pos holds,
    supplies.length], ?_⟩
  intro before piece after split placeholder
  cases before with
  | nil =>
      cases split
      exact here.symm
  | cons _ before =>
      obtain ⟨rfl, others⟩ := List.cons.inj split
      rw [List.countP_cons_of_pos holds, List.getElem?_cons_succ, shifted]
      exact supplies.each before piece after others placeholder

theorem Supplies.positional (supplies : Supplies byName inOrder pieces values)
    (value : SqlValue) :
    Supplies byName (value :: inOrder) (positional :: pieces)
        (value :: values) := by
  apply supplies.placeholder rfl rfl
  intro before piece
  cases piece <;> simp [supplied]

theorem Supplies.named (supplies : Supplies byName inOrder pieces values)
    {name : String} {value : SqlValue} (bound : byName name = some value) :
    Supplies byName inOrder (named name :: pieces) (value :: values) := by
  have here : supplied byName inOrder [] (Piece.named name) = some value :=
    bound
  apply supplies.placeholder rfl here
  intro before piece
  cases piece <;> simp [supplied]

theorem map_compiled (pieces : List Piece) :
    pieces.map compiled = pieces.flatMap rewritten := by
  have single (piece : Piece) : piece.rewritten = [piece.compiled] := by
    cases piece <;> rfl
  rw [funext single, List.map_eq_flatMap]

end Piece

namespace Statement

variable {text : String} {bindings : List Binding} {statement : Statement}

/-- A statement after one more call. -/
def apply (statement : Statement) : Binding → Statement
  | .toName name value => statement.bind name value
  | .inOrder values => statement.bindAll values

/-- The statement that calls make of a text. -/
def derived (text : String) (bindings : List Binding) : Statement :=
  bindings.foldl apply { text }

theorem derived_snoc (binding : Binding) :
    derived text (bindings ++ [binding]) =
        (derived text bindings).apply binding := by
  rw [derived, List.foldl_concat, ← derived]

/-! ## Values -/

theorem value?_bind (name bound : String) (value : SqlValue) :
    (statement.bind bound value).value? name =
      if bound = name then some value else statement.value? name := by
  rw [value?, bind, List.find?_append, List.find?_filter]
  by_cases same : bound = name
  · have replaced : statement.named.find? (fun entry =>
        decide ((entry.1 != bound) = true ∧ (entry.1 == name) = true)) =
            none := by
      simp [List.find?_eq_none, same]
    rw [replaced, if_pos same]
    simp [same]
  · have kept : (fun entry : String × SqlValue =>
        decide ((entry.1 != bound) = true ∧ (entry.1 == name) = true)) =
          fun entry => entry.1 == name := by
      funext entry
      by_cases found : entry.1 = name
      · have other : entry.1 ≠ bound :=
          fun equal => same (equal.symm.trans found)
        simp [found, Ne.symm same]
      · simp [found]
    rw [kept, if_neg same, value?]
    simp [same]

theorem derived_text : (derived text bindings).text = text := by
  induction bindings using List.reverseRecOn with
  | nil => rfl
  | append_singleton bindings binding inductionHypothesis =>
      rw [derived_snoc]
      cases binding with
      | toName name value => exact inductionHypothesis
      | inOrder values => exact inductionHypothesis

theorem derived_value? (name : String) :
    (derived text bindings).value? name = Binding.latest? name bindings := by
  induction bindings using List.reverseRecOn with
  | nil => rfl
  | append_singleton bindings binding inductionHypothesis =>
      rw [derived_snoc]
      cases binding with
      | toName bound value =>
          rw [apply, value?_bind, Binding.latest?_snoc_toName,
            inductionHypothesis]
      | inOrder values =>
          rw [apply, Binding.latest?_snoc_inOrder]
          exact inductionHypothesis

theorem derived_positional :
    (derived text bindings).positional = Binding.ordered bindings := by
  induction bindings using List.reverseRecOn with
  | nil => rfl
  | append_singleton bindings binding inductionHypothesis =>
      rw [derived_snoc]
      rw [Binding.ordered_snoc, ← inductionHypothesis]
      cases binding with
      | toName name value => exact (List.append_nil _).symm
      | inOrder values => rfl

/-! ## Resolution -/

section

variable {values resolved : List SqlValue} {pieces : List Piece}

theorem resolve_nil_iff :
    statement.resolve values [] = .ok resolved ↔
        values = [] ∧ resolved = [] := by
  cases values with
  | nil => simp [resolve, eq_comm]
  | cons value values => simp [resolve]

theorem resolve_plain (c : Char) :
    statement.resolve values (.plain c :: pieces) =
        statement.resolve values pieces := by
  cases values <;> rfl

theorem prepend_eq_ok_iff {value : SqlValue} {answer : Answer (List SqlValue)} :
    (answer >>= fun others => .ok (value :: others)) = .ok resolved ↔
      ∃ others, resolved = value :: others ∧ answer = .ok others := by
  rw [Answer.bind_eq_ok_iff]
  constructor
  · rintro ⟨others, done, equality⟩
    cases equality
    exact ⟨others, rfl, done⟩
  · rintro ⟨others, rfl, done⟩
    exact ⟨others, done, rfl⟩

theorem resolve_positional_iff :
    statement.resolve values (.positional :: pieces) = .ok resolved ↔
      ∃ value later others,
        values = value :: later ∧ resolved = value :: others ∧
        statement.resolve later pieces = .ok others := by
  cases values with
  | nil => simp [resolve]
  | cons value later =>
      have step : statement.resolve (value :: later) (.positional :: pieces) =
          statement.resolve later pieces >>=
            fun others => .ok (value :: others) := rfl
      rw [step, prepend_eq_ok_iff]
      simp

theorem resolve_named_iff {name : String} :
    statement.resolve values (.named name :: pieces) = .ok resolved ↔
      ∃ value others,
        statement.value? name = some value ∧ resolved = value :: others ∧
        statement.resolve values pieces = .ok others := by
  cases found : statement.value? name with
  | none => cases values <;> simp [resolve, found]
  | some value =>
      have step : statement.resolve values (.named name :: pieces) =
          statement.resolve values pieces >>=
              fun others => .ok (value :: others) := by
        cases values <;> simp only [resolve, found] <;> rfl
      rw [step, prepend_eq_ok_iff]
      simp

/-- What is resolved does not depend on how the values came to be bound. -/
theorem resolve_congr {other : Statement}
    (same : ∀ name, other.value? name = statement.value? name)
    (values : List SqlValue) (pieces : List Piece) :
    other.resolve values pieces = statement.resolve values pieces := by
  fun_induction resolve statement values pieces with
  | case1 => rfl
  | case2 => rfl
  | case3 values c rest inductionHypothesis =>
      rw [resolve_plain, inductionHypothesis]
  | case4 => rfl
  | case5 value values rest inductionHypothesis =>
      rw [resolve, inductionHypothesis]
  | case6 values name rest value found inductionHypothesis =>
      have stored : other.value? name = some value := (same name).trans found
      cases values <;> simp only [resolve, stored, inductionHypothesis]
  | case7 values name rest found =>
      have missing : other.value? name = none := (same name).trans found
      cases values <;> simp only [resolve, missing]

/-- There are values for all placeholders when each name is bound and the values
in order are as many as their placeholders. -/
theorem exists_resolve_iff :
    (∃ resolved, statement.resolve values pieces = .ok resolved) ↔
      (∀ name,
        .named name ∈ pieces → ∃ value, statement.value? name = some value) ∧
        pieces.count .positional = values.length := by
  induction pieces generalizing values with
  | nil =>
      simp only [resolve_nil_iff]
      simp [eq_comm]
  | cons piece pieces inductionHypothesis =>
      cases piece with
      | plain c =>
          rw [resolve_plain, inductionHypothesis]
          simp
      | positional =>
          cases values with
          | nil => simp [resolve]
          | cons value later =>
              have step :
                  (∃ resolved,
                    statement.resolve (value :: later) (.positional :: pieces) =
                      .ok resolved) ↔
                    ∃ resolved,
                        statement.resolve later pieces = .ok resolved := by
                simp [resolve_positional_iff]
              rw [step, inductionHypothesis]
              simp
      | named name =>
          have step :
              (∃ resolved,
                statement.resolve values (.named name :: pieces) =
                  .ok resolved) ↔
                (∃ value, statement.value? name = some value) ∧
                  ∃ resolved,
                      statement.resolve values pieces = .ok resolved := by
            simp [resolve_named_iff]
          rw [step, inductionHypothesis]
          simp [and_assoc]

/-- The values of the placeholders are found where they stand. -/
theorem resolve_supplies
    (done : statement.resolve values pieces = .ok resolved) :
    Piece.Supplies statement.value? values pieces resolved := by
  induction pieces generalizing values resolved with
  | nil =>
      obtain ⟨_, rfl⟩ := resolve_nil_iff.mp done
      exact Piece.supplies_nil
  | cons piece pieces inductionHypothesis =>
      cases piece with
      | plain c =>
          rw [resolve_plain] at done
          exact (inductionHypothesis done).plain c
      | positional =>
          obtain ⟨value, later, others, rfl, rfl, rest⟩ :=
            resolve_positional_iff.mp done
          exact (inductionHypothesis rest).positional value
      | named name =>
          obtain ⟨value, others, bound, rfl, rest⟩ := resolve_named_iff.mp done
          exact (inductionHypothesis rest).named bound

end

theorem compile_eq_ok_iff {compiled : CompiledStatement} :
    statement.compile = .ok compiled ↔
      statement.resolve statement.positional statement.pieces =
        .ok compiled.values ∧
        compiled.text =
            String.ofList (statement.pieces.map Piece.compiled) := by
  rw [compile, Answer.bind_eq_ok_iff]
  constructor
  · rintro ⟨values, resolved, equality⟩
    cases equality
    exact ⟨resolved, rfl⟩
  · rintro ⟨resolved, text⟩
    refine ⟨compiled.values, resolved, ?_⟩
    rw [← text]
    rfl

theorem derived_pieces :
    (derived text bindings).pieces = Piece.scan false text.toList := by
  rw [pieces, derived_text]

theorem exists_compile_iff :
    (∃ compiled, (derived text bindings).compile = .ok compiled) ↔
      (∀ name, .named name ∈ Piece.scan false text.toList →
          ∃ value, .toName name value ∈ bindings) ∧
        (Piece.scan false text.toList).count .positional =
            (Binding.ordered bindings).length := by
  have compiles : (∃ compiled, (derived text bindings).compile = .ok compiled) ↔
      ∃ values, (derived text bindings).resolve (Binding.ordered bindings)
        (Piece.scan false text.toList) = .ok values := by
    simp only [compile_eq_ok_iff, derived_pieces, derived_positional]
    constructor
    · exact fun ⟨compiled, resolved, _⟩ => ⟨compiled.values, resolved⟩
    · exact fun ⟨values, resolved⟩ => ⟨⟨_, values⟩, resolved, rfl⟩
  rw [compiles, exists_resolve_iff]
  simp only [derived_value?, Binding.exists_latest?_iff]

theorem supplies_of_compile {compiled : CompiledStatement}
    (done : (derived text bindings).compile = .ok compiled) :
    compiled.text.toList =
      (Piece.scan false text.toList).flatMap Piece.rewritten ∧
      Piece.Supplies (Binding.latest? · bindings) (Binding.ordered bindings)
        (Piece.scan false text.toList) compiled.values := by
  obtain ⟨resolved, rewritten⟩ := compile_eq_ok_iff.mp done
  rw [derived_pieces, derived_positional] at resolved
  have supplies := resolve_supplies resolved
  rw [funext derived_value?] at supplies
  rw [rewritten, derived_pieces, String.toList_ofList, Piece.map_compiled]
  exact ⟨rfl, supplies⟩

/-- The order of calls matters only among those that bind in order and among
those for one name. -/
theorem compile_congr {others : List Binding}
    (named :
      ∀ name, Binding.latest? name others = Binding.latest? name bindings)
    (ordered : Binding.ordered others = Binding.ordered bindings) :
    (derived text others).compile = (derived text bindings).compile := by
  have same (name : String) :
      (derived text others).value? name =
          (derived text bindings).value? name := by
    rw [derived_value?, derived_value?, named]
  rw [compile, compile, resolve_congr same, derived_pieces, derived_pieces,
    derived_positional, derived_positional, ordered]

/-- Calls for different names that follow each other can change places. -/
theorem compile_swap {first second : String} (different : first ≠ second)
    (value other : SqlValue) (before after : List Binding) :
    (derived text (before ++ .toName first value :: .toName second other ::
      after)).compile =
      (derived text (before ++ .toName second other :: .toName first value ::
          after)).compile := by
  apply compile_congr
  · intro name
    by_cases same : first = name
    · have notSecond : second ≠ name :=
        fun equal => different (same.trans equal.symm)
      simp [Binding.latest?, Binding.valueFor?, same, notSecond]
    · simp [Binding.latest?, Binding.valueFor?, same]
  · simp [Binding.ordered, Binding.orderedValues]

/-- Compiling a statement succeeds exactly when each name outside of literals
was bound and as many values were bound in order as there are question marks
outside of literals. The compiled text is the text with a question mark for each
of these names, and the values stand in the order of their placeholders: the
last one that was bound to the name, or the next one in order. So it does not
matter in which order different names were bound. -/
theorem compile_exact (text : String) (bindings : List Binding) :
    ∃ pieces,
      (∀ others, Piece.IsReading [] text.toList others ↔ others = pieces) ∧
      ((∃ compiled, (derived text bindings).compile = .ok compiled) ↔
        (∀ name,
          .named name ∈ pieces → ∃ value, .toName name value ∈ bindings) ∧
          pieces.count .positional = (Binding.ordered bindings).length) ∧
      (∀ compiled, (derived text bindings).compile = .ok compiled →
        compiled.text.toList = pieces.flatMap Piece.rewritten ∧
          Piece.Supplies (Binding.latest? · bindings)
            (Binding.ordered bindings) pieces
            compiled.values) ∧
      ∀ others,
        (∀ name, Binding.latest? name others = Binding.latest? name bindings) →
        Binding.ordered others = Binding.ordered bindings →
          (derived text others).compile = (derived text bindings).compile := by
  refine ⟨Piece.scan false text.toList, ?_, exists_compile_iff, ?_, ?_⟩
  · intro others
    constructor
    · exact fun reading => reading.scan_eq.symm
    · rintro rfl
      exact Piece.isReading_scan rfl
  · exact fun compiled done => supplies_of_compile done
  · exact fun others named ordered => compile_congr named ordered

end Statement

/-! ## Compiling what was compiled -/

namespace Piece

variable {earlier text other : List Char} {pieces : List Piece}

/-- A piece without its name. -/
def unnamed : Piece → Piece
  | named _ => positional
  | piece => piece

theorem map_compiled_unnamed (pieces : List Piece) :
    (pieces.map unnamed).map compiled = pieces.map compiled := by
  have single (piece : Piece) : piece.unnamed.compiled = piece.compiled := by
    cases piece <;> rfl
  rw [List.map_map]
  exact List.map_congr_left fun piece _ => single piece

/-- No name begins in the compiled text where none began before. -/
theorem IsReading.head?_compiled (reading : IsReading earlier text pieces)
    (starts : (pieces.map compiled).head?.any isNameStart = true) :
    text.head?.any isNameStart = true := by
  cases pieces with
  | nil => simp at starts
  | cons piece pieces =>
      obtain ⟨rest, rfl, _⟩ := isReading_cons_iff.mp reading
      cases piece with
      | plain c => exact starts
      | positional => cases starts
      | named name => cases starts

/-- A compiled text is read as the pieces without their names. -/
theorem IsReading.compiled (reading : IsReading earlier text pieces)
    (same : decide (WithinLiteral other) = decide (WithinLiteral earlier)) :
    IsReading other (pieces.map Piece.compiled) (pieces.map unnamed) := by
  induction pieces generalizing earlier other text with
  | nil => exact isReading_nil_iff.mpr rfl
  | cons piece pieces inductionHypothesis =>
      obtain ⟨rest, rfl, fits, later⟩ := isReading_cons_iff.mp reading
      rw [List.map_cons, List.map_cons, isReading_cons_iff]
      have literal : WithinLiteral other ↔ WithinLiteral earlier :=
        decide_eq_decide.mp same
      have placeholder (holds : ∀ c, piece ≠ plain c)
        (outside : ¬WithinLiteral earlier) :
          FitsBetween other positional (pieces.map Piece.compiled) ∧
            IsReading (other ++ positional.written) (pieces.map Piece.compiled)
              (pieces.map unnamed) := by
        have stands :
            FitsBetween other positional (pieces.map Piece.compiled) :=
          fun within => outside (literal.mp within)
        have after := withinLiteral_placeholder stands (by simp)
        exact ⟨stands, inductionHypothesis later
          (after.trans (withinLiteral_placeholder fits holds).symm)⟩
      cases piece with
      | plain c =>
          have toggled : decide (WithinLiteral (other ++ (plain c).written)) =
              decide (WithinLiteral (earlier ++ (plain c).written)) := by
            rw [withinLiteral_plain, withinLiteral_plain, same]
          have stands :
              FitsBetween other (plain c) (pieces.map Piece.compiled) :=
            fits.imp literal.mpr (And.imp_right fun notNamed starts =>
              notNamed ⟨starts.1, later.head?_compiled starts.2⟩)
          exact ⟨_, rfl, stands, inductionHypothesis later toggled⟩
      | positional => exact ⟨_, rfl, placeholder (by simp) fits⟩
      | named name => exact ⟨_, rfl, placeholder (by simp) fits.1⟩

end Piece

namespace Statement

variable {statement : Statement}

/-- The values of a statement are those of its compiled text, in order. -/
theorem resolve_unnamed (other : Statement) {values resolved : List SqlValue}
    {pieces : List Piece}
    (done : statement.resolve values pieces = .ok resolved) :
    other.resolve resolved (pieces.map Piece.unnamed) = .ok resolved := by
  induction pieces generalizing values resolved with
  | nil =>
      obtain ⟨_, rfl⟩ := resolve_nil_iff.mp done
      rfl
  | cons piece pieces inductionHypothesis =>
      rw [List.map_cons]
      cases piece with
      | plain c =>
          rw [resolve_plain] at done
          rw [Piece.unnamed, resolve_plain]
          · exact inductionHypothesis done
          · simp
      | positional =>
          obtain ⟨value, later, others, rfl, rfl, rest⟩ :=
            resolve_positional_iff.mp done
          exact resolve_positional_iff.mpr
            ⟨value, others, others, rfl, rfl, inductionHypothesis rest⟩
      | named name =>
          obtain ⟨value, others, _, rfl, rest⟩ := resolve_named_iff.mp done
          exact resolve_positional_iff.mpr
            ⟨value, others, others, rfl, rfl, inductionHypothesis rest⟩

/-- The compiled text with its values in order is compiled as itself. -/
theorem compile_compiled {compiled : CompiledStatement}
    (done : statement.compile = .ok compiled) :
    (bindAll { text := compiled.text } compiled.values).compile =
        .ok compiled := by
  obtain ⟨resolved, text⟩ := compile_eq_ok_iff.mp done
  have reading : Piece.IsReading [] (statement.pieces.map Piece.compiled)
      (statement.pieces.map Piece.unnamed) :=
    (@Piece.isReading_scan [] _ _ rfl).compiled rfl
  have again : (bindAll { text := compiled.text } compiled.values).pieces =
      statement.pieces.map Piece.unnamed := by
    rw [← reading.scan_eq, pieces, bindAll, text, String.toList_ofList]
    rfl
  rw [compile_eq_ok_iff, again, Piece.map_compiled_unnamed]
  exact ⟨resolve_unnamed _ resolved, text⟩

/-- A statement in which names stand next to each other and to colons, one of
them twice, and in which quotes are doubled within a literal and missing after
another. -/
def crowded : Statement :=
  derived "SELECT ':a?''', :::b:a?:1 :b1??' :a ?"
    [.toName "a" (.integer 1), .inOrder [.text "?", .null],
      .toName "b" (.text ":b"),
      .toName "a" (.integer 2), .inOrder [.integer 3],
        .toName "b1" (.integer 4)]

def crowdedCompiled : CompiledStatement where
  text := "SELECT ':a?''', ::???:1 ???' :a ?"
  values := [.text ":b", .integer 2, .text "?", .integer 4, .null, .integer 3]

theorem crowded_compile : crowded.compile = .ok crowdedCompiled := by
  decide +kernel

theorem compile_compiled_crowded :
    (bindAll { text := crowdedCompiled.text } crowdedCompiled.values).compile =
      .ok crowdedCompiled :=
  compile_compiled crowded_compile

end Statement

end CachedDirectory
