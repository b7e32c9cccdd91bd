import CachedDirectory.Filter.Pattern
import CachedDirectory.Proofs.FoldedTexts
import Mathlib.Data.List.Infix

/-!
# Patterns as LIKE patterns

A substring pattern and the LIKE pattern that is written for it accept the same
folded texts. The LIKE pattern reads back as the literal fragments, with one
more stretch than the pattern has fragments in the middle, and a literal stretch
is found where its fragment occurs.
-/

namespace CachedDirectory

open Text

namespace LikeStretch

/-- The stretch that a text matches alone. -/
def literals (content : List Char) : LikeStretch :=
  content.map .literal

/-! ## Reading an escaped text -/

theorem ofPattern?_escaped (c : Char) (rest : List Char) :
    ofPattern? ((if isSpecial c then ['!', c] else [c]) ++ rest) =
      (ofPattern? rest).map (extendFirst (.literal c)) := by
  cases special : isSpecial c with
  | true => rfl
  | false =>
      simp only [isSpecial, Bool.or_eq_false_iff,
        beq_eq_false_iff_ne] at special
      obtain ⟨⟨notEscape, notAny⟩, notOne⟩ := special
      show ofPattern? (c :: rest) = _
      rw [ofPattern?] <;> simp_all

theorem ofPattern?_escapeText_append {rest : List Char} {first : LikeStretch}
    {more : List LikeStretch} (content : List Char)
    (read : ofPattern? rest = some (first :: more)) :
    ofPattern? (escapeText content ++ rest) =
        some ((literals content ++ first) :: more) := by
  induction content with
  | nil => exact read
  | cons c content inductionHypothesis =>
      have split : escapeText (c :: content) ++ rest =
          (if isSpecial c then ['!', c] else [c]) ++
              (escapeText content ++ rest) := by
        rw [escapeText, List.flatMap_cons, List.append_assoc]
        rfl
      rw [split, ofPattern?_escaped, inductionHypothesis]
      rfl

theorem ofPattern?_percent (rest : List Char) :
    ofPattern? ('%' :: rest) = (ofPattern? rest).map ([] :: ·) := by
  rw [ofPattern?]

theorem ofPattern?_escapeText_percent {rest : List Char}
    {stretches : List LikeStretch} (content : List Char)
    (read : ofPattern? rest = some stretches) :
    ofPattern? (escapeText content ++ '%' :: rest) =
        some (literals content :: stretches) := by
  have percent : ofPattern? ('%' :: rest) = some ([] :: stretches) := by
    rw [ofPattern?_percent, read]
    rfl
  rw [ofPattern?_escapeText_append content percent, List.append_nil]

/-! ## Literal stretches -/

/-- Whether the characters of two texts agree exactly if they are the same. -/
def AgreeExactly (agree : Char → Char → Bool) (fragment content : List Char) :
    Prop :=
  ∀ c ∈ fragment, ∀ d ∈ content, agree c d = (c == d)

variable {agree : Char → Char → Bool} {fragment content : List Char}

theorem AgreeExactly.mono {part rest : List Char}
    (exact : AgreeExactly agree fragment content) (left : part ⊆ fragment)
    (right : rest ⊆ content) : AgreeExactly agree part rest :=
  fun c here d there => exact c (left here) d (right there)

theorem AgreeExactly.of_suffix {rest : List Char}
    (exact : AgreeExactly agree fragment content) (suffix : rest <:+ content) :
    AgreeExactly agree fragment rest :=
  exact.mono (List.Subset.refl fragment) suffix.subset

/-- Letters of any case agree exactly among texts without ASCII capitals. -/
theorem agreeExactly_of_isLowered (lowered : IsLowered fragment)
    (loweredContent : IsLowered content) :
    AgreeExactly sameLetter fragment content :=
  fun c here d there =>
    sameLetter_of_isLowered (lowered c here) (loweredContent d there)

theorem after?_literals (exact : AgreeExactly agree fragment content) :
    after? agree (literals fragment) content =
        fragment.isPrefixOf? content := by
  induction fragment generalizing content with
  | nil => cases content <;> rfl
  | cons c fragment inductionHypothesis =>
      cases content with
      | nil => rfl
      | cons d content =>
          have same : agree c d = (c == d) :=
            exact c List.mem_cons_self d List.mem_cons_self
          have rest :=
            exact.mono (List.subset_cons_self c fragment)
              (List.subset_cons_self d content)
          show (if agree c d then after? agree (literals fragment) content
            else none) = _
          rw [same, List.isPrefixOf?, inductionHypothesis rest]

theorem afterFirst?_literals (exact : AgreeExactly agree fragment content) :
    afterFirst? agree (literals fragment) content =
        Text.afterFirst? fragment content := by
  induction content with
  | nil => exact after?_literals exact
  | cons d content inductionHypothesis =>
      have later :=
        inductionHypothesis (exact.of_suffix (List.suffix_cons d content))
      rw [afterFirst?, Text.afterFirst?, after?_literals exact, later]
      cases fragment.isPrefixOf? (d :: content) <;> rfl

theorem ends_literals (exact : AgreeExactly agree fragment content) :
    ends agree (literals fragment) content = fragment.isSuffixOf content := by
  have length : (literals fragment).length = fragment.length :=
    List.length_map _
  rw [ends, length, after?_literals (exact.of_suffix (List.drop_suffix _ _)),
    List.isSome_isPrefixOf?_eq_isPrefixOf, Bool.eq_iff_iff, Bool.and_eq_true,
    decide_eq_true_iff, List.isPrefixOf_iff_prefix, List.isSuffixOf_iff_suffix]
  constructor
  · rintro ⟨short, isPrefix⟩
    have same := isPrefix.eq_of_length (by rw [List.length_drop]; omega)
    rw [same]
    exact List.drop_suffix _ _
  · intro suffix
    have dropped := List.suffix_iff_eq_drop.mp suffix
    exact ⟨suffix.length_le, dropped ▸ List.prefix_refl _⟩

theorem suffix_of_afterFirst? {rest : List Char}
    (found : Text.afterFirst? fragment content = some rest) :
    rest <:+ content := by
  induction content with
  | nil =>
      have whole := List.isPrefixOf?_eq_some_iff_append_eq.mp found
      exact ⟨fragment, whole⟩
  | cons d content inductionHypothesis =>
      rw [Text.afterFirst?] at found
      split at found
      · rename_i remaining here
        cases found
        exact ⟨fragment, List.isPrefixOf?_eq_some_iff_append_eq.mp here⟩
      · exact (inductionHypothesis found).trans (List.suffix_cons d content)

section Stretches

variable {α : Type} {agree : Char → α → Bool}

theorem followOn_cons (stretch : LikeStretch) {rest : List LikeStretch}
    (more : rest ≠ []) (content : List α) :
    followOn agree (stretch :: rest) content =
      ((afterFirst? agree stretch content).map (followOn agree rest)).getD
          false := by
  cases rest with
  | nil => exact absurd rfl more
  | cons next others =>
      rw [followOn]
      · cases afterFirst? agree stretch content <;> rfl
      · exact fun equality => nomatch equality

theorem compose_cons (first : LikeStretch) {rest : List LikeStretch}
    (more : rest ≠ []) (content : List α) :
    compose agree (first :: rest) content =
      ((after? agree first content).map (followOn agree rest)).getD false := by
  cases rest with
  | nil => exact absurd rfl more
  | cons next others =>
      rw [compose]
      · cases after? agree first content <;> rfl
      · exact fun equality => nomatch equality

end Stretches

end LikeStretch

namespace Pattern

open LikeStretch

/-- The characters that begin or end a pattern; none if it does not say how. -/
def edgeText (edge : Option String) : List Char :=
  (edge.map String.toList).getD []

/-- The stretches as which the LIKE pattern is read. -/
def stretches (pattern : Pattern) : List LikeStretch :=
  literals (edgeText pattern.initial) ::
    (pattern.middle.map fun fragment => literals fragment.toList) ++
      [literals (edgeText pattern.final)]

theorem likeEdge_eq (edge : Option String) :
    likeEdge edge = escapeText (edgeText edge) := by
  cases edge <;> rfl

theorem ofPattern?_escapeText (content : List Char) :
    ofPattern? (escapeText content) = some [literals content] := by
  have read :
      ofPattern? (escapeText content ++ []) = some [literals content ++ []] :=
    ofPattern?_escapeText_append content rfl
  rwa [List.append_nil, List.append_nil] at read

theorem ofPattern?_middle (final : Option String) (middle : List String) :
    ofPattern?
        (middle.flatMap (fun fragment => likeFragment fragment ++ ['%']) ++
          likeEdge final) =
      some ((middle.map fun fragment => literals fragment.toList) ++
        [literals (edgeText final)]) := by
  induction middle with
  | nil => exact likeEdge_eq final ▸ ofPattern?_escapeText (edgeText final)
  | cons fragment middle inductionHypothesis =>
      rw [List.flatMap_cons, List.append_assoc, List.append_assoc]
      exact ofPattern?_escapeText_percent fragment.toList inductionHypothesis

/-- The LIKE pattern of a substring pattern reads back as its fragments. -/
theorem ofPattern?_likeText (pattern : Pattern) :
    ofPattern? pattern.likeText.toList = some pattern.stretches := by
  rw [likeText, String.toList_ofList, likeEdge_eq pattern.initial,
    List.append_assoc, List.cons_append]
  exact ofPattern?_escapeText_percent _
    (ofPattern?_middle pattern.final pattern.middle)

variable {agree : Char → Char → Bool}

theorem agreeExactly_edgeText {edge : Option String} {content : List Char}
    (exact :
      ∀ fragment ∈ edge.toList, AgreeExactly agree fragment.toList content) :
    AgreeExactly agree (edgeText edge) content := by
  cases edge with
  | none => exact fun _ member => nomatch member
  | some fragment => exact exact fragment (List.mem_singleton.mpr rfl)

theorem afterInitial?_eq (initial : Option String) (content : List Char) :
    afterInitial? initial content = (edgeText initial).isPrefixOf? content := by
  cases initial with
  | none => cases content <;> rfl
  | some fragment => rfl

theorem endsWith_eq (final : Option String) (content : List Char) :
    endsWith final content = (edgeText final).isSuffixOf content := by
  cases final with
  | none => exact (List.isSuffixOf_iff_suffix.mpr (List.nil_suffix)).symm
  | some fragment => rfl

/-- The stretches after the first one are found where the fragments of the
pattern are. -/
theorem followOn_middle {final : Option String} {middle : List String}
    {content : List Char}
    (exact : ∀ fragment ∈ middle, AgreeExactly agree fragment.toList content)
    (exactFinal :
      ∀ fragment ∈ final.toList, AgreeExactly agree fragment.toList content) :
    followOn agree
        ((middle.map fun fragment => literals fragment.toList) ++
          [literals (edgeText final)])
        content =
      ((afterMiddle? middle content).map (endsWith final)).getD false := by
  induction middle generalizing content with
  | nil =>
      show ends agree (literals (edgeText final)) content =
        endsWith final content
      rw [ends_literals (agreeExactly_edgeText exactFinal), endsWith_eq]
  | cons fragment middle inductionHypothesis =>
      rw [List.map_cons, List.cons_append, followOn_cons _ (by simp),
        afterFirst?_literals (exact fragment List.mem_cons_self), afterMiddle?]
      cases found : Text.afterFirst? fragment.toList content with
      | none => rfl
      | some rest =>
          have suffix := suffix_of_afterFirst? found
          apply inductionHypothesis
          · intro other member
            exact (exact other (List.mem_cons_of_mem fragment member)).of_suffix
              suffix
          · exact fun other member => (exactFinal other member).of_suffix suffix

/-- A pattern and its LIKE pattern accept a value in which characters agree with
those of the pattern exactly if they are the same. -/
theorem matchesLike_of_agreeExactly {pattern : Pattern} {value : String}
    (exact :
      ∀ fragment ∈ pattern.fragments,
        AgreeExactly agree fragment.toList value.toList) :
    matchesLike agree pattern.likeText.toList value.toList =
        pattern.accepts value := by
  have exactInitial : ∀ fragment ∈ pattern.initial.toList,
      AgreeExactly agree fragment.toList value.toList :=
    fun fragment member => exact fragment (by simp [fragments, member])
  have exactMiddle : ∀ fragment ∈ pattern.middle,
      AgreeExactly agree fragment.toList value.toList :=
    fun fragment member => exact fragment (by simp [fragments, member])
  have exactFinal : ∀ fragment ∈ pattern.final.toList,
      AgreeExactly agree fragment.toList value.toList :=
    fun fragment member => exact fragment (by simp [fragments, member])
  rw [matchesLike, ofPattern?_likeText, accepts, afterInitial?_eq]
  show compose agree pattern.stretches value.toList = _
  rw [stretches, List.cons_append, compose_cons _ (by simp),
    after?_literals (agreeExactly_edgeText exactInitial)]
  cases found : (edgeText pattern.initial).isPrefixOf? value.toList with
  | none => rfl
  | some rest =>
      have suffix : rest <:+ value.toList :=
        ⟨_, List.isPrefixOf?_eq_some_iff_append_eq.mp found⟩
      have followed := followOn_middle
        (fun fragment member => (exactMiddle fragment member).of_suffix suffix)
        fun fragment member => (exactFinal fragment member).of_suffix suffix
      rw [Option.map_some, Option.getD_some, followed, Option.bind_some]
      cases afterMiddle? pattern.middle rest <;> rfl

/-- Whether no fragment of a pattern has ASCII capitals. -/
def IsLowered (pattern : Pattern) : Prop :=
  ∀ fragment ∈ pattern.fragments, Text.IsLowered fragment.toList

/-- A pattern without ASCII capitals and its LIKE pattern accept the same texts
without them. -/
theorem matchesLike_likeText {pattern : Pattern} {value : String}
    (lowered : pattern.IsLowered) (loweredValue : Text.IsLowered value.toList) :
    matchesLike sameLetter pattern.likeText.toList value.toList =
        pattern.accepts value :=
  matchesLike_of_agreeExactly fun fragment member =>
    agreeExactly_of_isLowered (lowered fragment member) loweredValue

end Pattern

end CachedDirectory
