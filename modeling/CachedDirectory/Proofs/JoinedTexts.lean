import CachedDirectory.Proofs.Comparisons
import CachedDirectory.Store.Selection
import Mathlib.Data.List.Basic

/-!
# Joined texts

The ids at the other ends of edges are joined into one cell. Joined texts are a
text again, so a row whose edges end at rows with texts as ids can always be
read.
-/

namespace CachedDirectory

namespace Text

theorem toList_loop (bytes : ByteArray) (position : Nat) (known : List UInt8) :
    ByteArray.toList.loop bytes position known =
      known.reverse ++ bytes.data.toList.drop position := by
  fun_induction ByteArray.toList.loop bytes position known with
  | case1 position known inside inductionHypothesis =>
      have within : position < bytes.data.toList.length := inside
      have byte : bytes.get! position = bytes.data.toList[position] := by
        show bytes.data[position]! = _
        rw [getElem!_pos bytes.data position within]
        rfl
      rw [inductionHypothesis, List.reverse_cons, List.append_assoc,
        List.drop_eq_getElem_cons within,
        byte]
      rfl
  | case2 position known outside =>
      have beyond : bytes.data.toList.length ≤ position :=
        Nat.le_of_not_lt outside
      rw [List.drop_eq_nil_of_le beyond, List.append_nil]

theorem toList_eq (bytes : ByteArray) : bytes.toList = bytes.data.toList := by
  rw [ByteArray.toList, toList_loop]
  rfl

theorem encodeUtf8_append (left right : String) :
    encodeUtf8 (left ++ right) = encodeUtf8 left ++ encodeUtf8 right := by
  simp [encodeUtf8, toList_eq]

/-- The bytes of a text are read as that text. -/
theorem decodeUtf8?_encodeUtf8 (text : String) :
    decodeUtf8? (encodeUtf8 text) = some text := by
  have bytes :
      (⟨(encodeUtf8 text).toArray⟩ : ByteArray) = text.toByteArray := by
    rw [encodeUtf8, toList_eq]
    rfl
  rw [decodeUtf8?, bytes, String.fromUTF8?, dif_pos text.isValidUTF8]
  rfl

end Text

/-- Texts with a text between them have the bytes of the text that is made of
them. -/
theorem intercalate_encodeUtf8 (separator : String) (contents : List String) :
    List.intercalate (Text.encodeUtf8 separator)
      (contents.map Text.encodeUtf8) =
      Text.encodeUtf8
        (String.ofList
            (List.intercalate separator.toList
            (contents.map String.toList))) := by
  induction contents with
  | nil =>
      rw [List.map_nil, List.intercalate_nil, Text.encodeUtf8, Text.toList_eq]
      rfl
  | cons first rest inductionHypothesis =>
      cases rest with
      | nil => simp [List.intercalate]
      | cons second others =>
          rw [List.map_cons, List.map_cons, List.intercalate_cons_cons, ←
            List.map_cons, inductionHypothesis, ←
              Text.encodeUtf8_append, ← Text.encodeUtf8_append]
          congr 1
          rw [String.ext_iff]
          simp [List.intercalate_cons_cons]

/-- Texts are joined with the separator between them. -/
theorem joinValues_texts {contents : List String} (nonempty : contents ≠ []) :
    joinValues (contents.map .text) =
      .ok (.text (String.ofList
        (List.intercalate [valueSeparator] (contents.map String.toList)))) := by
  have present :
      (contents.map SqlValue.text).filter (fun value => !value.isNull) =
        contents.map .text := by
    apply List.filter_eq_self.mpr
    intro value member
    obtain ⟨content, _, rfl⟩ := List.mem_map.mp member
    rfl
  unfold joinValues
  rw [present]
  cases contents with
  | nil => exact absurd rfl nonempty
  | cons first rest =>
      show readJoined
        (List.intercalate _
        (((first :: rest).map SqlValue.text).map joinedBytes)) = _
      rw [List.map_map]
      show readJoined
        (List.intercalate _ ((first :: rest).map Text.encodeUtf8)) = _
      rw [intercalate_encodeUtf8, readJoined, Text.decodeUtf8?_encodeUtf8,
        String.toList_singleton]

/-- Texts are joined without a failure. -/
theorem exists_joinValues {values : List SqlValue}
    (texts : ∀ value ∈ values, ∃ content, value = .text content) :
    ∃ cell, joinValues values = .ok cell := by
  have listed : ∃ contents : List String, values = contents.map .text := by
    induction values with
    | nil => exact ⟨[], rfl⟩
    | cons value rest inductionHypothesis =>
        obtain ⟨content, rfl⟩ := texts value List.mem_cons_self
        obtain ⟨contents, rfl⟩ := inductionHypothesis fun other member =>
          texts other (List.mem_cons_of_mem _ member)
        exact ⟨content :: contents, rfl⟩
  obtain ⟨contents, rfl⟩ := listed
  by_cases none : contents = []
  · rw [none]
    exact ⟨.null, rfl⟩
  · exact ⟨_, joinValues_texts none⟩

end CachedDirectory
